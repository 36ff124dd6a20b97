/-!
The names of the characters of Unicode 14, in runs of characters one behind another, and their other
names in runs alike.

The names of a run stand apart by semicolons and line ends. A digit in front of a name stands for
as many words from the start of the name before it, and a digit behind a slash for as many from its
end. A plus sign with a number stands for so many names, each of them the one before it with the
numeral or the letter at its end moved on by one. Ideographs and syllables whose names are computed
have no entry.
-/

namespace MaximalMunch.CharacterName

set_option maxRecDepth 8000 in
def nameRuns : List (Nat × String) :=
  [(0x20, "SPACE;EXCLAMATION MARK;QUOTATION/1;NUMBER SIGN;DOLLAR/1;PERCENT/1;AMPERSAND;APOSTROPHE;
     LEFT PARENTHESIS;RIGHT/1;ASTERISK;PLUS SIGN;COMMA;HYPHEN-MINUS;FULL STOP;SOLIDUS;DIGIT ZERO;
     1ONE;1TWO;1THREE;1FOUR;1FIVE;1SIX;1SEVEN;1EIGHT;1NINE;COLON;SEMICOLON;LESS-THAN SIGN;EQUALS/1;
     GREATER-THAN/1;QUESTION MARK;COMMERCIAL AT;LATIN CAPITAL LETTER A;+25;LEFT SQUARE BRACKET;
     REVERSE SOLIDUS;RIGHT SQUARE BRACKET;CIRCUMFLEX ACCENT;LOW LINE;GRAVE ACCENT;
     LATIN SMALL LETTER A;+25;LEFT CURLY BRACKET;VERTICAL LINE;RIGHT CURLY BRACKET;TILDE"),
   (0xA0, "NO-BREAK SPACE;INVERTED EXCLAMATION MARK;CENT SIGN;POUND/1;CURRENCY/1;YEN/1;BROKEN BAR;
     SECTION SIGN;DIAERESIS;COPYRIGHT SIGN;FEMININE ORDINAL INDICATOR;
     LEFT-POINTING DOUBLE ANGLE QUOTATION MARK;NOT SIGN;SOFT HYPHEN;REGISTERED SIGN;MACRON;
     DEGREE SIGN;PLUS-MINUS/1;SUPERSCRIPT TWO;1THREE;ACUTE ACCENT;MICRO SIGN;PILCROW/1;MIDDLE DOT;
     CEDILLA;SUPERSCRIPT ONE;MASCULINE ORDINAL INDICATOR;RIGHT-POINTING DOUBLE ANGLE QUOTATION MARK;
     VULGAR FRACTION ONE QUARTER;3HALF;2THREE QUARTERS;INVERTED QUESTION MARK;
     LATIN CAPITAL LETTER A WITH GRAVE;5ACUTE;5CIRCUMFLEX;5TILDE;5DIAERESIS;5RING ABOVE;3AE;
     3C WITH CEDILLA;3E WITH GRAVE;5ACUTE;5CIRCUMFLEX;5DIAERESIS;3I WITH GRAVE;5ACUTE;5CIRCUMFLEX;
     5DIAERESIS;3ETH;3N WITH TILDE;3O WITH GRAVE;5ACUTE;5CIRCUMFLEX;5TILDE;5DIAERESIS;
     MULTIPLICATION SIGN;LATIN CAPITAL LETTER O WITH STROKE;3U WITH GRAVE;5ACUTE;5CIRCUMFLEX;
     5DIAERESIS;3Y WITH ACUTE;3THORN;1SMALL LETTER SHARP S;3A WITH GRAVE;5ACUTE;5CIRCUMFLEX;5TILDE;
     5DIAERESIS;5RING ABOVE;3AE;3C WITH CEDILLA;3E WITH GRAVE;5ACUTE;5CIRCUMFLEX;5DIAERESIS;
     3I WITH GRAVE;5ACUTE;5CIRCUMFLEX;5DIAERESIS;3ETH;3N WITH TILDE;3O WITH GRAVE;5ACUTE;
     5CIRCUMFLEX;5TILDE;5DIAERESIS;DIVISION SIGN;LATIN SMALL LETTER O WITH STROKE;3U WITH GRAVE;
     5ACUTE;5CIRCUMFLEX;5DIAERESIS;3Y WITH ACUTE;3THORN;3Y WITH DIAERESIS"),
   (0x100, "LATIN CAPITAL LETTER A WITH MACRON;1SMALL/4;1CAPITAL LETTER A WITH BREVE;1SMALL/4;
     1CAPITAL LETTER A WITH OGONEK;1SMALL/4;1CAPITAL LETTER C WITH ACUTE;1SMALL/4;
     1CAPITAL LETTER C WITH CIRCUMFLEX;1SMALL/4;1CAPITAL LETTER C WITH DOT ABOVE;1SMALL/5;
     1CAPITAL LETTER C WITH CARON;1SMALL/4;1CAPITAL LETTER D/2;1SMALL/4;
     1CAPITAL LETTER D WITH STROKE;1SMALL/4;1CAPITAL LETTER E WITH MACRON;1SMALL/4;
     1CAPITAL LETTER E WITH BREVE;1SMALL/4;1CAPITAL LETTER E WITH DOT ABOVE;1SMALL/5;
     1CAPITAL LETTER E WITH OGONEK;1SMALL/4;1CAPITAL LETTER E WITH CARON;1SMALL/4;
     1CAPITAL LETTER G WITH CIRCUMFLEX;1SMALL/4;1CAPITAL LETTER G WITH BREVE;1SMALL/4;
     1CAPITAL LETTER G WITH DOT ABOVE;1SMALL/5;1CAPITAL LETTER G WITH CEDILLA;1SMALL/4;
     1CAPITAL LETTER H WITH CIRCUMFLEX;1SMALL/4;1CAPITAL LETTER H WITH STROKE;1SMALL/4;
     1CAPITAL LETTER I WITH TILDE;1SMALL/4;1CAPITAL LETTER I WITH MACRON;1SMALL/4;
     1CAPITAL LETTER I WITH BREVE;1SMALL/4;1CAPITAL LETTER I WITH OGONEK;1SMALL/4;
     1CAPITAL LETTER I WITH DOT ABOVE;1SMALL LETTER DOTLESS I;1CAPITAL LIGATURE IJ;1SMALL/2;
     1CAPITAL LETTER J WITH CIRCUMFLEX;1SMALL/4;1CAPITAL LETTER K WITH CEDILLA;1SMALL/4;3KRA;
     1CAPITAL LETTER L WITH ACUTE;1SMALL/4;1CAPITAL LETTER L WITH CEDILLA;1SMALL/4;
     1CAPITAL LETTER L WITH CARON;1SMALL/4;1CAPITAL LETTER L WITH MIDDLE DOT;1SMALL/5;
     1CAPITAL LETTER L WITH STROKE;1SMALL/4;1CAPITAL LETTER N WITH ACUTE;1SMALL/4;
     1CAPITAL LETTER N WITH CEDILLA;1SMALL/4;1CAPITAL LETTER N WITH CARON;1SMALL/4;
     4PRECEDED BY APOSTROPHE;1CAPITAL LETTER ENG;1SMALL/2;1CAPITAL LETTER O WITH MACRON;1SMALL/4;
     1CAPITAL LETTER O WITH BREVE;1SMALL/4;1CAPITAL LETTER O WITH DOUBLE ACUTE;1SMALL/5;
     1CAPITAL LIGATURE OE;1SMALL/2;1CAPITAL LETTER R WITH ACUTE;1SMALL/4;
     1CAPITAL LETTER R WITH CEDILLA;1SMALL/4;1CAPITAL LETTER R WITH CARON;1SMALL/4;
     1CAPITAL LETTER S WITH ACUTE;1SMALL/4;1CAPITAL LETTER S WITH CIRCUMFLEX;1SMALL/4;
     1CAPITAL LETTER S WITH CEDILLA;1SMALL/4;1CAPITAL LETTER S WITH CARON;1SMALL/4;
     1CAPITAL LETTER T WITH CEDILLA;1SMALL/4;1CAPITAL LETTER T WITH CARON;1SMALL/4;
     1CAPITAL LETTER T WITH STROKE;1SMALL/4;1CAPITAL LETTER U WITH TILDE;1SMALL/4;
     1CAPITAL LETTER U WITH MACRON;1SMALL/4;1CAPITAL LETTER U WITH BREVE;1SMALL/4;
     1CAPITAL LETTER U WITH RING ABOVE;1SMALL/5;1CAPITAL LETTER U WITH DOUBLE ACUTE;1SMALL/5;
     1CAPITAL LETTER U WITH OGONEK;1SMALL/4;1CAPITAL LETTER W WITH CIRCUMFLEX;1SMALL/4;
     1CAPITAL LETTER Y/2;1SMALL/4;1CAPITAL LETTER Y WITH DIAERESIS;3Z WITH ACUTE;1SMALL/4;
     1CAPITAL LETTER Z WITH DOT ABOVE;1SMALL/5;1CAPITAL LETTER Z WITH CARON;1SMALL/4;3LONG S;
     3B WITH STROKE;1CAPITAL LETTER B WITH HOOK;5TOPBAR;1SMALL/4;1CAPITAL LETTER TONE SIX;1SMALL/3;
     1CAPITAL LETTER OPEN O;3C WITH HOOK;1SMALL/4;1CAPITAL LETTER AFRICAN D;3D WITH HOOK;5TOPBAR;
     1SMALL/4;3TURNED DELTA;1CAPITAL LETTER REVERSED E;3SCHWA;3OPEN E;3F WITH HOOK;1SMALL/4;
     1CAPITAL LETTER G/2;3GAMMA;1SMALL LETTER HV;1CAPITAL LETTER IOTA;3I WITH STROKE;3K WITH HOOK;
     1SMALL/4;3L WITH BAR;3LAMBDA WITH STROKE;1CAPITAL LETTER TURNED M;3N WITH LEFT HOOK;
     1SMALL LETTER N WITH LONG RIGHT LEG;1CAPITAL LETTER O WITH MIDDLE TILDE;5HORN;1SMALL/4;
     1CAPITAL LETTER OI;1SMALL/2;1CAPITAL LETTER P WITH HOOK;1SMALL/4;1LETTER YR;
     1CAPITAL LETTER TONE TWO;1SMALL/3;1CAPITAL LETTER ESH;1LETTER REVERSED ESH LOOP;
     1SMALL LETTER T WITH PALATAL HOOK;1CAPITAL LETTER T WITH/1;1SMALL/4;
     1CAPITAL LETTER T WITH RETROFLEX/1;3U WITH HORN;1SMALL/4;1CAPITAL LETTER UPSILON;3V WITH HOOK;
     3Y/2;1SMALL/4;1CAPITAL LETTER Z WITH STROKE;1SMALL/4;1CAPITAL LETTER EZH;4REVERSED;1SMALL/3;
     4WITH TAIL;1LETTER TWO WITH STROKE;1CAPITAL LETTER TONE FIVE;1SMALL/3;
     1LETTER INVERTED GLOTTAL STOP WITH STROKE;2WYNN;2DENTAL CLICK;2LATERAL/1;2ALVEOLAR/1;
     2RETROFLEX/1;1CAPITAL LETTER DZ WITH CARON;3D WITH SMALL LETTER Z/2;1SMALL LETTER DZ/2;
     1CAPITAL LETTER LJ;3L WITH SMALL LETTER J;1SMALL LETTER LJ;1CAPITAL LETTER NJ;
     3N WITH SMALL LETTER J;1SMALL LETTER NJ;1CAPITAL LETTER A WITH CARON;1SMALL/4;
     1CAPITAL LETTER I/2;1SMALL/4;1CAPITAL LETTER O/2;1SMALL/4;1CAPITAL LETTER U/2;1SMALL/4;
     1CAPITAL LETTER U WITH DIAERESIS AND MACRON;1SMALL/6;
     1CAPITAL LETTER U WITH DIAERESIS AND ACUTE;1SMALL/6;1CAPITAL LETTER U WITH DIAERESIS AND CARON;
     1SMALL/6;1CAPITAL LETTER U WITH DIAERESIS AND GRAVE;1SMALL/6;3TURNED E;
     1CAPITAL LETTER A WITH DIAERESIS AND MACRON;1SMALL/6;1CAPITAL LETTER A WITH DOT ABOVE/2;
     1SMALL/7;1CAPITAL LETTER AE WITH/1;1SMALL/4;1CAPITAL LETTER G WITH STROKE;1SMALL/4;
     1CAPITAL LETTER G WITH CARON;1SMALL/4;1CAPITAL LETTER K/2;1SMALL/4;
     1CAPITAL LETTER O WITH OGONEK;1SMALL/4;1CAPITAL LETTER O WITH OGONEK AND MACRON;1SMALL/6;
     1CAPITAL LETTER EZH WITH CARON;1SMALL/4;3J/2;1CAPITAL LETTER DZ;3D WITH SMALL LETTER Z;
     1SMALL LETTER DZ;1CAPITAL LETTER G WITH ACUTE;1SMALL/4;1CAPITAL LETTER HWAIR;3WYNN;
     3N WITH GRAVE;1SMALL/4;1CAPITAL LETTER A WITH RING ABOVE AND ACUTE;1SMALL/7;
     1CAPITAL LETTER AE WITH/1;1SMALL/4;1CAPITAL LETTER O WITH STROKE AND/1;1SMALL/6"),
   (0x200, "LATIN CAPITAL LETTER A WITH DOUBLE GRAVE;1SMALL/5;1CAPITAL LETTER A WITH INVERTED BREVE;
     1SMALL/5;1CAPITAL LETTER E WITH DOUBLE GRAVE;1SMALL/5;1CAPITAL LETTER E WITH INVERTED BREVE;
     1SMALL/5;1CAPITAL LETTER I WITH DOUBLE GRAVE;1SMALL/5;1CAPITAL LETTER I WITH INVERTED BREVE;
     1SMALL/5;1CAPITAL LETTER O WITH DOUBLE GRAVE;1SMALL/5;1CAPITAL LETTER O WITH INVERTED BREVE;
     1SMALL/5;1CAPITAL LETTER R WITH DOUBLE GRAVE;1SMALL/5;1CAPITAL LETTER R WITH INVERTED BREVE;
     1SMALL/5;1CAPITAL LETTER U WITH DOUBLE GRAVE;1SMALL/5;1CAPITAL LETTER U WITH INVERTED BREVE;
     1SMALL/5;1CAPITAL LETTER S WITH COMMA BELOW;1SMALL/5;1CAPITAL LETTER T/3;1SMALL/5;
     1CAPITAL LETTER YOGH;1SMALL/2;1CAPITAL LETTER H WITH CARON;1SMALL/4;
     1CAPITAL LETTER N WITH LONG RIGHT LEG;1SMALL LETTER D WITH CURL;1CAPITAL LETTER OU;1SMALL/2;
     1CAPITAL LETTER Z WITH HOOK;1SMALL/4;1CAPITAL LETTER A WITH DOT ABOVE;1SMALL/5;
     1CAPITAL LETTER E WITH CEDILLA;1SMALL/4;1CAPITAL LETTER O WITH DIAERESIS AND MACRON;1SMALL/6;
     1CAPITAL LETTER O WITH TILDE/2;1SMALL/6;1CAPITAL LETTER O WITH DOT ABOVE;1SMALL/5;
     1CAPITAL LETTER O WITH DOT ABOVE AND MACRON;1SMALL/7;1CAPITAL LETTER Y WITH/1;1SMALL/4;
     3L WITH CURL;3N/2;3T/2;3DOTLESS J;3DB DIGRAPH;3QP/1;1CAPITAL LETTER A WITH STROKE;3C/2;
     1SMALL/4;1CAPITAL LETTER L WITH BAR;3T WITH DIAGONAL STROKE;1SMALL LETTER S WITH SWASH TAIL;
     3Z/3;1CAPITAL LETTER GLOTTAL STOP;1SMALL/3;1CAPITAL LETTER B WITH STROKE;3U BAR;3TURNED V;
     3E WITH STROKE;1SMALL/4;1CAPITAL LETTER J/2;1SMALL/4;1CAPITAL LETTER SMALL Q WITH HOOK TAIL;
     1SMALL LETTER/4;1CAPITAL LETTER R WITH STROKE;1SMALL/4;1CAPITAL LETTER Y/2;1SMALL/4;3TURNED A;
     3ALPHA;3TURNED/1;3B WITH HOOK;3OPEN O;3C WITH CURL;3D WITH TAIL;5HOOK;3REVERSED E;3SCHWA;
     4WITH HOOK;3OPEN E;3REVERSED/2;6WITH HOOK;3CLOSED REVERSED OPEN E;3DOTLESS J WITH STROKE;
     3G WITH HOOK;3SCRIPT G;1LETTER SMALL CAPITAL G;1SMALL LETTER GAMMA;3RAMS HORN;3TURNED H;
     3H WITH HOOK;3HENG/2;3I WITH STROKE;3IOTA;1LETTER SMALL CAPITAL I;
     1SMALL LETTER L WITH MIDDLE TILDE;5BELT;5RETROFLEX HOOK;3LEZH;3TURNED M;5WITH LONG LEG;
     3M WITH HOOK;3N WITH LEFT/1;5RETROFLEX/1;1LETTER SMALL CAPITAL N;1SMALL LETTER BARRED O;
     1LETTER SMALL CAPITAL OE;1SMALL LETTER CLOSED OMEGA;3PHI;3TURNED R;5WITH LONG LEG;6HOOK;
     3R WITH LONG LEG;5TAIL;5FISHHOOK;3REVERSED/3;1LETTER SMALL CAPITAL R;4INVERTED R;
     1SMALL LETTER S WITH HOOK;3ESH;3DOTLESS J WITH STROKE AND HOOK;3SQUAT REVERSED ESH;
     3ESH WITH CURL;3TURNED T;3T WITH RETROFLEX HOOK;3U BAR;3UPSILON;3V WITH HOOK;3TURNED V;+1;4Y;
     1LETTER SMALL CAPITAL Y;1SMALL LETTER Z WITH RETROFLEX HOOK;5CURL;3EZH;4WITH CURL;
     1LETTER GLOTTAL STOP;2PHARYNGEAL VOICED FRICATIVE;2INVERTED GLOTTAL STOP;2STRETCHED C;
     2BILABIAL CLICK;2SMALL CAPITAL B;1SMALL LETTER CLOSED OPEN E;1LETTER SMALL CAPITAL G WITH HOOK;
     4H;1SMALL LETTER J WITH CROSSED-TAIL;3TURNED K;1LETTER SMALL CAPITAL L;
     1SMALL LETTER Q WITH HOOK;1LETTER GLOTTAL STOP WITH STROKE;2REVERSED/4;
     1SMALL LETTER DZ DIGRAPH;3DEZH/1;3DZ DIGRAPH WITH CURL;3TS DIGRAPH;3TESH/1;
     3TC DIGRAPH WITH CURL;3FENG DIGRAPH;3LS/1;3LZ/1;1LETTER BILABIAL PERCUSSIVE;2BIDENTAL/1;
     1SMALL LETTER TURNED H WITH FISHHOOK;7AND TAIL;MODIFIER LETTER SMALL H;4WITH HOOK;3J;3R;
     3TURNED R;5WITH HOOK;3CAPITAL INVERTED R;3W;3Y;2PRIME;2DOUBLE/1;2TURNED COMMA;2APOSTROPHE;
     2REVERSED COMMA;2RIGHT HALF RING;2LEFT/2;2GLOTTAL STOP;2REVERSED/2;2LEFT ARROWHEAD;2RIGHT/1;
     2UP/1;2DOWN/1;2CIRCUMFLEX ACCENT;CARON;MODIFIER LETTER VERTICAL LINE;2MACRON;2ACUTE ACCENT;
     2GRAVE/1;2LOW VERTICAL LINE;3MACRON;3GRAVE ACCENT;3ACUTE/1;2TRIANGULAR COLON;2HALF/2;
     2CENTRED RIGHT HALF RING;3LEFT/2;2UP TACK;2DOWN/1;2PLUS SIGN;2MINUS/1;BREVE;DOT ABOVE;RING/1;
     OGONEK;SMALL TILDE;DOUBLE ACUTE ACCENT;MODIFIER LETTER RHOTIC HOOK;2CROSS ACCENT;2SMALL GAMMA;
     3L;3S;3X;3REVERSED GLOTTAL STOP;2EXTRA-HIGH TONE BAR;2HIGH/2;2MID/2;2LOW/2;2EXTRA-LOW/2;
     2YIN DEPARTING TONE MARK;2YANG/3;2VOICING;2UNASPIRATED;2DOUBLE APOSTROPHE;2LOW DOWN ARROWHEAD;
     3UP/1;3LEFT/1;3RIGHT/1;3RING;2MIDDLE GRAVE ACCENT;3DOUBLE/2;4ACUTE/1;2LOW TILDE;2RAISED COLON;
     2BEGIN HIGH TONE;2END/2;2BEGIN LOW/1;2END/2;2SHELF;2OPEN/1;2LOW LEFT ARROW"),
   (0x300, "COMBINING GRAVE ACCENT;1ACUTE/1;1CIRCUMFLEX/1;1TILDE;1MACRON;1OVERLINE;1BREVE;
     1DOT ABOVE;1DIAERESIS;1HOOK ABOVE;1RING/1;1DOUBLE ACUTE ACCENT;1CARON;1VERTICAL LINE ABOVE;
     1DOUBLE/3;2GRAVE ACCENT;1CANDRABINDU;1INVERTED BREVE;1TURNED COMMA ABOVE;1COMMA/1;1REVERSED/2;
     1COMMA ABOVE RIGHT;1GRAVE ACCENT BELOW;1ACUTE/2;1LEFT TACK/1;1RIGHT/2;1LEFT ANGLE ABOVE;1HORN;
     1LEFT HALF RING BELOW;1UP TACK/1;1DOWN/2;1PLUS SIGN/1;1MINUS/2;1PALATALIZED HOOK/1;
     1RETROFLEX/2;1DOT/1;1DIAERESIS/1;1RING/1;1COMMA/1;1CEDILLA;1OGONEK;1VERTICAL LINE BELOW;
     1BRIDGE/1;1INVERTED DOUBLE ARCH/1;1CARON/1;1CIRCUMFLEX ACCENT/1;1BREVE/1;1INVERTED/2;1TILDE/1;
     1MACRON/1;1LOW LINE;1DOUBLE/2;1TILDE OVERLAY;1SHORT STROKE/1;1LONG/2;1SHORT SOLIDUS/1;1LONG/2;
     1RIGHT HALF RING BELOW;1INVERTED BRIDGE/1;1SQUARE/1;1SEAGULL/1;1X ABOVE;1VERTICAL TILDE;
     1DOUBLE OVERLINE;1GRAVE TONE MARK;1ACUTE/2;1GREEK PERISPOMENI;2KORONIS;2DIALYTIKA TONOS;
     2YPOGEGRAMMENI;1BRIDGE ABOVE;1EQUALS SIGN BELOW;1DOUBLE VERTICAL LINE/1;1LEFT ANGLE/1;
     1NOT TILDE ABOVE;1HOMOTHETIC/1;1ALMOST EQUAL TO/1;1LEFT RIGHT ARROW BELOW;1UPWARDS/2;
     1GRAPHEME JOINER;1RIGHT ARROWHEAD ABOVE;1LEFT HALF RING/1;1FERMATA;1X BELOW;1LEFT ARROWHEAD/1;
     1RIGHT/2;3AND UP ARROWHEAD/1;2HALF RING ABOVE;1DOT ABOVE RIGHT;1ASTERISK BELOW;1DOUBLE RING/1;
     1ZIGZAG ABOVE;1DOUBLE BREVE BELOW;2BREVE;2MACRON;3BELOW;2TILDE;2INVERTED BREVE;
     2RIGHTWARDS ARROW BELOW;1LATIN SMALL LETTER A;4E;4I;4O;4U;4C;+1;4H;4M;4R;4T;4V;4X;
     GREEK CAPITAL LETTER HETA;1SMALL/2;1CAPITAL LETTER ARCHAIC SAMPI;1SMALL/3;1NUMERAL SIGN;
     1LOWER/2;1CAPITAL LETTER PAMPHYLIAN DIGAMMA;1SMALL/3"),
   (0x37A, "GREEK YPOGEGRAMMENI;1SMALL REVERSED LUNATE SIGMA SYMBOL;2DOTTED/3;2REVERSED/4;
     1QUESTION MARK;1CAPITAL LETTER YOT"),
   (0x384, "GREEK TONOS;1DIALYTIKA/1;1CAPITAL LETTER ALPHA WITH/1;1ANO TELEIA;
     1CAPITAL LETTER EPSILON WITH TONOS;3ETA/2;3IOTA/2"),
   (0x38C, "GREEK CAPITAL LETTER OMICRON WITH TONOS"),
   (0x38E, "GREEK CAPITAL LETTER UPSILON WITH TONOS;3OMEGA/2;
     1SMALL LETTER IOTA WITH DIALYTIKA AND/1;1CAPITAL LETTER ALPHA;3BETA;3GAMMA;3DELTA;3EPSILON;
     3ZETA;3ETA;3THETA;3IOTA;3KAPPA;3LAMDA;3MU;3NU;3XI;3OMICRON;3PI;3RHO"),
   (0x3A3, "GREEK CAPITAL LETTER SIGMA;3TAU;3UPSILON;3PHI;3CHI;3PSI;3OMEGA;3IOTA WITH DIALYTIKA;
     3UPSILON/2;1SMALL LETTER ALPHA WITH TONOS;3EPSILON/2;3ETA/2;3IOTA/2;
     3UPSILON WITH DIALYTIKA AND/1;3ALPHA;3BETA;3GAMMA;3DELTA;3EPSILON;3ZETA;3ETA;3THETA;3IOTA;
     3KAPPA;3LAMDA;3MU;3NU;3XI;3OMICRON;3PI;3RHO;3FINAL SIGMA;3SIGMA;3TAU;3UPSILON;3PHI;3CHI;3PSI;
     3OMEGA;3IOTA WITH DIALYTIKA;3UPSILON/2;3OMICRON WITH TONOS;3UPSILON/2;3OMEGA/2;
     1CAPITAL KAI SYMBOL;1BETA/1;1THETA/1;1UPSILON WITH HOOK/1;3ACUTE AND/2;3DIAERESIS/3;1PHI/1;
     1PI/1;1KAI/1;1LETTER ARCHAIC KOPPA;1SMALL/3;1LETTER STIGMA;1SMALL/2;1LETTER DIGAMMA;1SMALL/2;
     1LETTER KOPPA;1SMALL/2;1LETTER SAMPI;1SMALL/2;COPTIC CAPITAL LETTER SHEI;1SMALL/2;
     1CAPITAL LETTER FEI;1SMALL/2;1CAPITAL LETTER KHEI;1SMALL/2;1CAPITAL LETTER HORI;1SMALL/2;
     1CAPITAL LETTER GANGIA;1SMALL/2;1CAPITAL LETTER SHIMA;1SMALL/2;1CAPITAL LETTER DEI;1SMALL/2;
     GREEK KAPPA SYMBOL;1RHO/1;1LUNATE SIGMA/1;1LETTER YOT;1CAPITAL THETA SYMBOL;1LUNATE EPSILON/1;
     1REVERSED/3;1CAPITAL LETTER SHO;1SMALL/2;1CAPITAL LUNATE SIGMA SYMBOL;2LETTER SAN;1SMALL/2;
     1RHO WITH STROKE SYMBOL;1CAPITAL REVERSED LUNATE SIGMA/1;2DOTTED/3;2REVERSED/4"),
   (0x400, "CYRILLIC CAPITAL LETTER IE WITH GRAVE;3IO;3DJE;3GJE;3UKRAINIAN IE;3DZE;
     3BYELORUSSIAN-UKRAINIAN I;3YI;3JE;3LJE;3NJE;3TSHE;3KJE;3I WITH GRAVE;3SHORT U;3DZHE;3A;3BE;3VE;
     3GHE;3DE;3IE;3ZHE;3ZE;3I;3SHORT I;3KA;3EL;+2;3O;3PE;3ER;+1;3TE;3U;3EF;3HA;3TSE;3CHE;3SHA;
     3SHCHA;3HARD SIGN;3YERU;3SOFT SIGN;3E;3YU;3YA;1SMALL LETTER A;3BE;3VE;3GHE;3DE;3IE;3ZHE;3ZE;3I;
     3SHORT I;3KA;3EL;+2;3O;3PE;3ER;+1;3TE;3U;3EF;3HA;3TSE;3CHE;3SHA;3SHCHA;3HARD SIGN;3YERU;
     3SOFT SIGN;3E;3YU;3YA;3IE WITH GRAVE;3IO;3DJE;3GJE;3UKRAINIAN IE;3DZE;
     3BYELORUSSIAN-UKRAINIAN I;3YI;3JE;3LJE;3NJE;3TSHE;3KJE;3I WITH GRAVE;3SHORT U;3DZHE;
     1CAPITAL LETTER OMEGA;1SMALL/2;1CAPITAL LETTER YAT;1SMALL/2;1CAPITAL LETTER IOTIFIED E;
     1SMALL/3;1CAPITAL LETTER LITTLE YUS;1SMALL/3;1CAPITAL LETTER IOTIFIED/2;1SMALL/4;
     1CAPITAL LETTER BIG/1;1SMALL/3;1CAPITAL LETTER IOTIFIED/2;1SMALL/4;1CAPITAL LETTER KSI;
     1SMALL/2;1CAPITAL LETTER PSI;1SMALL/2;1CAPITAL LETTER FITA;1SMALL/2;1CAPITAL LETTER IZHITSA;
     1SMALL/2;1CAPITAL LETTER IZHITSA WITH DOUBLE GRAVE ACCENT;1SMALL/6;1CAPITAL LETTER UK;1SMALL/2;
     1CAPITAL LETTER ROUND OMEGA;1SMALL/3;1CAPITAL LETTER OMEGA WITH TITLO;1SMALL/4;
     1CAPITAL LETTER OT;1SMALL/2;1CAPITAL LETTER KOPPA;1SMALL/2;1THOUSANDS SIGN;
     COMBINING CYRILLIC TITLO;2PALATALIZATION;2DASIA PNEUMATA;2PSILI/1;2POKRYTIE;
     2HUNDRED THOUSANDS SIGN;2MILLIONS/1;CYRILLIC CAPITAL LETTER SHORT I WITH TAIL;1SMALL/5;
     1CAPITAL LETTER SEMISOFT SIGN;1SMALL/3;1CAPITAL LETTER ER WITH TICK;1SMALL/4;
     1CAPITAL LETTER GHE WITH UPTURN;1SMALL/4;1CAPITAL LETTER GHE WITH STROKE;1SMALL/4;
     1CAPITAL LETTER GHE WITH MIDDLE HOOK;1SMALL/5;1CAPITAL LETTER ZHE WITH DESCENDER;1SMALL/4;
     1CAPITAL LETTER ZE/2;1SMALL/4;1CAPITAL LETTER KA/2;1SMALL/4;
     1CAPITAL LETTER KA WITH VERTICAL STROKE;1SMALL/5;1CAPITAL LETTER KA WITH/1;1SMALL/4;
     1CAPITAL LETTER BASHKIR KA;1SMALL/3;1CAPITAL LETTER EN WITH DESCENDER;1SMALL/4;
     1CAPITAL LIGATURE EN GHE;1SMALL/3;1CAPITAL LETTER PE WITH MIDDLE HOOK;1SMALL/5;
     1CAPITAL LETTER ABKHASIAN HA;1SMALL/3;1CAPITAL LETTER ES WITH DESCENDER;1SMALL/4;
     1CAPITAL LETTER TE/2;1SMALL/4;1CAPITAL LETTER STRAIGHT U;1SMALL/3;
     1CAPITAL LETTER STRAIGHT U WITH STROKE;1SMALL/5;1CAPITAL LETTER HA WITH DESCENDER;1SMALL/4;
     1CAPITAL LIGATURE TE TSE;1SMALL/3;1CAPITAL LETTER CHE WITH DESCENDER;1SMALL/4;
     1CAPITAL LETTER CHE WITH VERTICAL STROKE;1SMALL/5;1CAPITAL LETTER SHHA;1SMALL/2;
     1CAPITAL LETTER ABKHASIAN CHE;1SMALL/3;1CAPITAL LETTER ABKHASIAN CHE WITH DESCENDER;1SMALL/5;
     1LETTER PALOCHKA;1CAPITAL LETTER ZHE WITH BREVE;1SMALL/4;1CAPITAL LETTER KA WITH HOOK;1SMALL/4;
     1CAPITAL LETTER EL WITH TAIL;1SMALL/4;1CAPITAL LETTER EN WITH HOOK;1SMALL/4;
     1CAPITAL LETTER EN WITH TAIL;1SMALL/4;1CAPITAL LETTER KHAKASSIAN CHE;1SMALL/3;
     1CAPITAL LETTER EM WITH TAIL;1SMALL/4;3PALOCHKA;1CAPITAL LETTER A WITH BREVE;1SMALL/4;
     1CAPITAL LETTER A WITH DIAERESIS;1SMALL/4;1CAPITAL LIGATURE A IE;1SMALL/3;
     1CAPITAL LETTER IE WITH BREVE;1SMALL/4;1CAPITAL LETTER SCHWA;1SMALL/2;
     1CAPITAL LETTER SCHWA WITH DIAERESIS;1SMALL/4;1CAPITAL LETTER ZHE/2;1SMALL/4;
     1CAPITAL LETTER ZE/2;1SMALL/4;1CAPITAL LETTER ABKHASIAN DZE;1SMALL/3;
     1CAPITAL LETTER I WITH MACRON;1SMALL/4;1CAPITAL LETTER I WITH DIAERESIS;1SMALL/4;
     1CAPITAL LETTER O/2;1SMALL/4;1CAPITAL LETTER BARRED O;1SMALL/3;
     1CAPITAL LETTER BARRED O WITH DIAERESIS;1SMALL/5;1CAPITAL LETTER E/2;1SMALL/4;
     1CAPITAL LETTER U WITH MACRON;1SMALL/4;1CAPITAL LETTER U WITH DIAERESIS;1SMALL/4;
     1CAPITAL LETTER U WITH DOUBLE ACUTE;1SMALL/5;1CAPITAL LETTER CHE WITH DIAERESIS;1SMALL/4;
     1CAPITAL LETTER GHE WITH DESCENDER;1SMALL/4;1CAPITAL LETTER YERU WITH DIAERESIS;1SMALL/4;
     1CAPITAL LETTER GHE WITH STROKE AND HOOK;1SMALL/6;1CAPITAL LETTER HA WITH/1;1SMALL/4;
     1CAPITAL LETTER HA WITH STROKE;1SMALL/4"),
   (0x500, "CYRILLIC CAPITAL LETTER KOMI DE;1SMALL/3;1CAPITAL LETTER KOMI DJE;1SMALL/3;
     1CAPITAL LETTER KOMI ZJE;1SMALL/3;1CAPITAL LETTER KOMI DZJE;1SMALL/3;1CAPITAL LETTER KOMI LJE;
     1SMALL/3;1CAPITAL LETTER KOMI NJE;1SMALL/3;1CAPITAL LETTER KOMI SJE;1SMALL/3;
     1CAPITAL LETTER KOMI TJE;1SMALL/3;1CAPITAL LETTER REVERSED ZE;1SMALL/3;
     1CAPITAL LETTER EL WITH HOOK;1SMALL/4;1CAPITAL LETTER LHA;1SMALL/2;1CAPITAL LETTER RHA;
     1SMALL/2;1CAPITAL LETTER YAE;1SMALL/2;1CAPITAL LETTER QA;1SMALL/2;1CAPITAL LETTER WE;1SMALL/2;
     1CAPITAL LETTER ALEUT KA;1SMALL/3;1CAPITAL LETTER EL WITH MIDDLE HOOK;1SMALL/5;
     1CAPITAL LETTER EN/3;1SMALL/5;1CAPITAL LETTER PE WITH DESCENDER;1SMALL/4;
     1CAPITAL LETTER SHHA/2;1SMALL/4;1CAPITAL LETTER EN WITH LEFT HOOK;1SMALL/5;
     1CAPITAL LETTER DZZHE;1SMALL/2;1CAPITAL LETTER DCHE;1SMALL/2;1CAPITAL LETTER EL WITH DESCENDER;
     1SMALL/4"),
   (0x531, "ARMENIAN CAPITAL LETTER AYB;3BEN;3GIM;3DA;3ECH;3ZA;3EH;3ET;3TO;3ZHE;3INI;3LIWN;3XEH;3CA;
     3KEN;3HO;3JA;3GHAD;3CHEH;3MEN;3YI;3NOW;3SHA;3VO;3CHA;3PEH;3JHEH;3RA;3SEH;3VEW;3TIWN;3REH;3CO;
     3YIWN;3PIWR;3KEH;3OH;3FEH"),
   (0x559, "ARMENIAN MODIFIER LETTER LEFT HALF RING;1APOSTROPHE;1EMPHASIS MARK;1EXCLAMATION/1;
     1COMMA;1QUESTION MARK;1ABBREVIATION/1;1SMALL LETTER TURNED AYB;3AYB;3BEN;3GIM;3DA;3ECH;3ZA;3EH;
     3ET;3TO;3ZHE;3INI;3LIWN;3XEH;3CA;3KEN;3HO;3JA;3GHAD;3CHEH;3MEN;3YI;3NOW;3SHA;3VO;3CHA;3PEH;
     3JHEH;3RA;3SEH;3VEW;3TIWN;3REH;3CO;3YIWN;3PIWR;3KEH;3OH;3FEH;2LIGATURE ECH YIWN;
     2LETTER YI WITH STROKE;1FULL STOP;1HYPHEN"),
   (0x58D, "RIGHT-FACING ARMENIAN ETERNITY SIGN;LEFT-FACING/3;ARMENIAN DRAM/1"),
   (0x591, "HEBREW ACCENT ETNAHTA;2SEGOL;2SHALSHELET;2ZAQEF QATAN;3GADOL;2TIPEHA;2REVIA;2ZARQA;
     2PASHTA;2YETIV;2TEVIR;2GERESH;3MUQDAM;2GERSHAYIM;2QARNEY PARA;2TELISHA GEDOLA;2PAZER;
     2ATNAH HAFUKH;2MUNAH;2MAHAPAKH;2MERKHA;3KEFULA;2DARGA;2QADMA;2TELISHA QETANA;2YERAH BEN YOMO;
     2OLE;2ILUY;2DEHI;2ZINOR;1MARK MASORA CIRCLE;1POINT SHEVA;2HATAF SEGOL;3PATAH;3QAMATS;2HIRIQ;
     2TSERE;2SEGOL;2PATAH;2QAMATS;2HOLAM;3HASER FOR VAV;2QUBUTS;2DAGESH OR MAPIQ;2METEG;
     1PUNCTUATION MAQAF;1POINT RAFE;1PUNCTUATION PASEQ;1POINT SHIN DOT;2SIN/1;
     1PUNCTUATION SOF PASUQ;1MARK UPPER DOT;2LOWER/1;1PUNCTUATION NUN HAFUKHA;1POINT QAMATS QATAN"),
   (0x5D0, "HEBREW LETTER ALEF;2BET;2GIMEL;2DALET;2HE;2VAV;2ZAYIN;2HET;2TET;2YOD;2FINAL KAF;2KAF;
     2LAMED;2FINAL MEM;2MEM;2FINAL NUN;2NUN;2SAMEKH;2AYIN;2FINAL PE;2PE;2FINAL TSADI;2TSADI;2QOF;
     2RESH;2SHIN;2TAV"),
   (0x5EF, "HEBREW YOD TRIANGLE;1LIGATURE YIDDISH DOUBLE VAV;3VAV YOD;3DOUBLE/1;1PUNCTUATION GERESH;
     2GERSHAYIM"),
   (0x600, "ARABIC NUMBER SIGN;1SIGN SANAH;1FOOTNOTE MARKER;1SIGN SAFHA;2SAMVAT;1NUMBER MARK ABOVE;
     ARABIC-INDIC CUBE ROOT;1FOURTH/1;ARABIC RAY;ARABIC-INDIC PER MILLE SIGN;2TEN THOUSAND/1;
     AFGHANI/1;ARABIC COMMA;1DATE SEPARATOR;1POETIC VERSE SIGN;1SIGN MISRA;
     2SALLALLAHOU ALAYHE WASSALLAM;2ALAYHE ASSALLAM;2RAHMATULLAH ALAYHE;2RADI ALLAHOU ANHU;
     2TAKHALLUS;1SMALL HIGH TAH;3LIGATURE ALEF WITH LAM WITH YEH;3ZAIN;2FATHA;2DAMMA;2KASRA;
     1SEMICOLON;1LETTER MARK;1END OF TEXT/1;1TRIPLE DOT PUNCTUATION/1;1QUESTION/1;
     1LETTER KASHMIRI YEH;2HAMZA;2ALEF WITH MADDA ABOVE;4HAMZA/1;2WAW/3;2ALEF WITH HAMZA BELOW;
     2YEH WITH HAMZA ABOVE;2ALEF;2BEH;2TEH MARBUTA;2TEH;2THEH;2JEEM;2HAH;2KHAH;2DAL;2THAL;2REH;
     2ZAIN;2SEEN;2SHEEN;2SAD;2DAD;2TAH;2ZAH;2AIN;2GHAIN;2KEHEH WITH TWO DOTS ABOVE;
     4THREE DOTS BELOW;2FARSI YEH WITH INVERTED V;5TWO DOTS ABOVE;5THREE/2;1TATWEEL;1LETTER FEH;
     2QAF;2KAF;2LAM;2MEEM;2NOON;2HEH;2WAW;2ALEF MAKSURA;2YEH;1FATHATAN;1DAMMATAN;1KASRATAN;1FATHA;
     1DAMMA;1KASRA;1SHADDA;1SUKUN;1MADDAH ABOVE;1HAMZA/1;2BELOW;1SUBSCRIPT ALEF;1INVERTED DAMMA;
     1MARK NOON GHUNNA;1ZWARAKAY;1VOWEL SIGN SMALL V ABOVE;3INVERTED/3;3DOT BELOW;1REVERSED DAMMA;
     1FATHA WITH TWO DOTS;1WAVY HAMZA BELOW;ARABIC-INDIC DIGIT ZERO;2ONE;2TWO;2THREE;2FOUR;2FIVE;
     2SIX;2SEVEN;2EIGHT;2NINE;ARABIC PERCENT SIGN;1DECIMAL SEPARATOR;1THOUSANDS/1;
     1FIVE POINTED STAR;1LETTER DOTLESS BEH;3QAF;2SUPERSCRIPT ALEF;2ALEF WASLA;
     3WITH WAVY HAMZA ABOVE;6BELOW;2HIGH HAMZA;4ALEF;4WAW;2U WITH HAMZA ABOVE;2HIGH HAMZA YEH;2TTEH;
     2TTEHEH;2BEEH;2TEH WITH RING;4THREE DOTS ABOVE DOWNWARDS;2PEH;2TEHEH;2BEHEH;
     2HAH WITH HAMZA ABOVE;4TWO DOTS VERTICAL/1;2NYEH;2DYEH;2HAH WITH THREE DOTS ABOVE;2TCHEH;
     2TCHEHEH;2DDAL;2DAL WITH RING;4DOT BELOW;6AND SMALL TAH;2DAHAL;2DDAHAL;2DUL;
     2DAL WITH THREE DOTS ABOVE DOWNWARDS;4FOUR DOTS ABOVE;2RREH;2REH WITH SMALL V;4RING;4DOT BELOW;
     4SMALL V/1;4DOT BELOW AND DOT ABOVE;4TWO DOTS/1;2JEH;2REH WITH FOUR DOTS ABOVE;
     2SEEN WITH DOT BELOW AND DOT/1;4THREE DOTS BELOW;7AND THREE DOTS ABOVE;
     2SAD WITH TWO DOTS BELOW;4THREE DOTS ABOVE;2TAH/4;2AIN/4;2DOTLESS FEH;
     2FEH WITH DOT MOVED BELOW;4DOT/1;2VEH;2FEH WITH THREE DOTS BELOW;2PEHEH;2QAF WITH DOT ABOVE;
     4THREE DOTS/1;2KEHEH;2SWASH KAF;2KAF WITH RING;4DOT ABOVE;2NG;2KAF WITH THREE DOTS BELOW;2GAF;
     3WITH RING;2NGOEH;2GAF WITH TWO DOTS BELOW;2GUEH;2GAF WITH THREE DOTS ABOVE;2LAM WITH SMALL V;
     4DOT ABOVE;4THREE DOTS/1;6BELOW;2NOON WITH DOT/1;3GHUNNA;2RNOON;2NOON WITH RING;
     4THREE DOTS ABOVE;2HEH DOACHASHMEE;2TCHEH WITH DOT ABOVE;2HEH WITH YEH/1;3GOAL;
     4WITH HAMZA ABOVE;2TEH MARBUTA GOAL;2WAW WITH RING;2KIRGHIZ OE;2OE;2U;2YU;2KIRGHIZ/1;
     2WAW WITH TWO DOTS ABOVE;2VE;2FARSI YEH;2YEH WITH TAIL;4SMALL V;2WAW WITH DOT ABOVE;2E;
     2YEH WITH THREE DOTS BELOW;3BARREE;4WITH HAMZA ABOVE;1FULL STOP;1LETTER AE;
     1SMALL HIGH LIGATURE SAD WITH LAM WITH ALEF MAKSURA;4QAF/5;3MEEM INITIAL FORM;3LAM ALEF;3JEEM;
     3THREE DOTS;3SEEN;1END OF AYAH;1START OF RUB EL HIZB;1SMALL HIGH ROUNDED ZERO;
     3UPRIGHT RECTANGULAR/1;3DOTLESS HEAD OF KHAH;3MEEM ISOLATED FORM;2LOW SEEN;2HIGH MADDA;2WAW;
     2YEH;2HIGH/1;3NOON;1PLACE OF SAJDAH;1EMPTY CENTRE LOW STOP;3HIGH/1;
     1ROUNDED HIGH STOP WITH FILLED CENTRE;1SMALL LOW MEEM;1LETTER DAL WITH INVERTED V;2REH/3;
     EXTENDED ARABIC-INDIC DIGIT ZERO;3ONE;3TWO;3THREE;3FOUR;3FIVE;3SIX;3SEVEN;3EIGHT;3NINE;
     ARABIC LETTER SHEEN WITH DOT BELOW;2DAD/3;2GHAIN/3;1SIGN SINDHI AMPERSAND;3POSTPOSITION MEN;
     1LETTER HEH WITH INVERTED V"),
   (0x700, "SYRIAC END OF PARAGRAPH;1SUPRALINEAR FULL STOP;1SUBLINEAR/2;1SUPRALINEAR COLON;
     1SUBLINEAR/1;1HORIZONTAL/1;1COLON SKEWED LEFT;3RIGHT;1SUPRALINEAR COLON SKEWED LEFT;
     1SUBLINEAR COLON SKEWED RIGHT;1CONTRACTION;1HARKLEAN OBELUS;2METOBELUS;2ASTERISCUS"),
   (0x70F, "SYRIAC ABBREVIATION MARK;1LETTER ALAPH;2SUPERSCRIPT/1;2BETH;2GAMAL;3GARSHUNI;2DALATH;
     2DOTLESS DALATH RISH;2HE;2WAW;2ZAIN;2HETH;2TETH;3GARSHUNI;2YUDH;3HE;2KAPH;2LAMADH;2MIM;2NUN;
     2SEMKATH;2FINAL/1;2E;2PE;2REVERSED/1;2SADHE;2QAPH;2RISH;2SHIN;2TAW;2PERSIAN BHETH;3GHAMAL;
     3DHALATH;1PTHAHA ABOVE;2BELOW;2DOTTED;1ZQAPHA ABOVE;2BELOW;2DOTTED;1RBASA ABOVE;2BELOW;
     1DOTTED ZLAMA HORIZONTAL;3ANGULAR;1HBASA ABOVE;2BELOW;1HBASA-ESASA DOTTED;1ESASA ABOVE;2BELOW;
     1RWAHA;1FEMININE DOT;1QUSHSHAYA;1RUKKAKHA;1TWO VERTICAL DOTS ABOVE;4BELOW;1THREE DOTS ABOVE;
     3BELOW;1OBLIQUE LINE ABOVE;3BELOW;1MUSIC;1BARREKH"),
   (0x74D, "SYRIAC LETTER SOGDIAN ZHAIN;3KHAPH;3FE;
     ARABIC LETTER BEH WITH THREE DOTS HORIZONTALLY BELOW;4DOT BELOW AND THREE DOTS ABOVE;
     4THREE DOTS POINTING UPWARDS BELOW;9AND TWO DOTS ABOVE;4TWO DOTS BELOW AND DOT/1;
     4INVERTED SMALL V BELOW;4SMALL V;2HAH WITH TWO DOTS ABOVE;4THREE DOTS POINTING UPWARDS BELOW;
     2DAL WITH TWO DOTS VERTICALLY BELOW AND SMALL TAH;4INVERTED SMALL V BELOW;2REH WITH STROKE;
     2SEEN WITH FOUR DOTS ABOVE;2AIN WITH TWO/2;4THREE DOTS POINTING DOWNWARDS/1;
     4TWO DOTS VERTICALLY/1;2FEH WITH TWO DOTS BELOW;4THREE DOTS POINTING UPWARDS/1;
     2KEHEH WITH DOT ABOVE;4THREE DOTS/1;6POINTING UPWARDS BELOW;2MEEM WITH DOT ABOVE;5BELOW;
     2NOON WITH TWO DOTS/1;4SMALL TAH;5V;2LAM WITH BAR;2REH WITH TWO DOTS VERTICALLY ABOVE;4HAMZA/1;
     2SEEN WITH TWO DOTS VERTICALLY/1;2HAH WITH SMALL ARABIC LETTER TAH BELOW;8AND TWO DOTS;2SEEN/8;
     2REH/8;2HAH WITH SMALL ARABIC LETTER TAH ABOVE;2ALEF WITH EXTENDED ARABIC-INDIC DIGIT TWO/1;
     7THREE/1;2FARSI YEH WITH EXTENDED ARABIC-INDIC DIGIT TWO/1;8THREE/1;8FOUR BELOW;
     2WAW WITH EXTENDED ARABIC-INDIC DIGIT TWO ABOVE;7THREE/1;
     2YEH BARREE WITH EXTENDED ARABIC-INDIC DIGIT TWO/1;8THREE/1;
     2HAH WITH EXTENDED ARABIC-INDIC DIGIT FOUR BELOW;
     2SEEN WITH EXTENDED ARABIC-INDIC DIGIT FOUR ABOVE;4INVERTED V;2KAF WITH TWO DOTS ABOVE;
     THAANA LETTER HAA;2SHAVIYANI;2NOONU;2RAA;2BAA;2LHAVIYANI;2KAAFU;2ALIFU;2VAAVU;2MEEMU;2FAAFU;
     2DHAALU;2THAA;2LAAMU;2GAAFU;2GNAVIYANI;2SEENU;2DAVIYANI;2ZAVIYANI;2TAVIYANI;2YAA;2PAVIYANI;
     2JAVIYANI;2CHAVIYANI;2TTAA;2HHAA;2KHAA;2THAALU;2ZAA;2SHEENU;2SAADHU;2DAADHU;2TO;2ZO;2AINU;
     2GHAINU;2QAAFU;2WAAVU;1ABAFILI;1AABAAFILI;1IBIFILI;1EEBEEFILI;1UBUFILI;1OOBOOFILI;1EBEFILI;
     1EYBEYFILI;1OBOFILI;1OABOAFILI;1SUKUN;1LETTER NAA"),
   (0x7C0, "NKO DIGIT ZERO;2ONE;2TWO;2THREE;2FOUR;2FIVE;2SIX;2SEVEN;2EIGHT;2NINE;1LETTER A;2EE;2I;
     2E;2U;2OO;2O;2DAGBASINNA;2N;2BA;2PA;2TA;2JA;2CHA;2DA;2RA;2RRA;2SA;2GBA;2FA;2KA;2LA;2NA WOLOSO;
     2MA;2NYA;2NA;2HA;2WA;2YA;2NYA WOLOSO;2JONA JA;3CHA;3RA;1COMBINING SHORT HIGH TONE;3LOW/1;
     3RISING/1;2LONG DESCENDING/1;3HIGH/1;3LOW/1;3RISING/1;2NASALIZATION MARK;2DOUBLE DOT ABOVE;
     1HIGH TONE APOSTROPHE;1LOW/2;1SYMBOL OO DENNEN;2GBAKURUNEN;1COMMA;1EXCLAMATION MARK;
     1LAJANYALAN"),
   (0x7FD, "NKO DANTAYALAN;1DOROME SIGN;1TAMAN/1"),
   (0x800, "SAMARITAN LETTER ALAF;2BIT;2GAMAN;2DALAT;2IY;2BAA;2ZEN;2IT;2TIT;2YUT;2KAAF;2LABAT;2MIM;
     2NUN;2SINGAAT;2IN;2FI;2TSAADIY;2QUF;2RISH;2SHAN;2TAAF;1MARK IN;2IN-ALAF;2OCCLUSION;2DAGESH;
     1MODIFIER LETTER EPENTHETIC YUT;1MARK/2;1VOWEL SIGN LONG E;3E;3OVERLONG AA;3LONG/1;3AA;
     3OVERLONG A;3LONG A;3A;1MODIFIER LETTER SHORT A;1VOWEL SIGN/2;3LONG U;3U;1MODIFIER LETTER I;
     1VOWEL SIGN LONG I;3I;3O;3SUKUN;1MARK NEQUDAA"),
   (0x830, "SAMARITAN PUNCTUATION NEQUDAA;2AFSAAQ;2ANGED;2BAU;2ATMAAU;2SHIYYAALAA;
     1ABBREVIATION MARK;1PUNCTUATION MELODIC QITSA;2ZIQAA;2QITSA;2ZAEF;2TURU;2ARKAANU;2SOF MASHFAAT;
     2ANNAAU"),
   (0x840, "MANDAIC LETTER HALQA;2AB;2AG;2AD;2AH;2USHENNA;2AZ;2IT;2ATT;2AKSA;2AK;+3;2AS;2IN;2AP;
     2ASZ;2AQ;+1;2ASH;2AT;2DUSHENNA;2KAD;2AIN;1AFFRICATION MARK;1VOCALIZATION/1;1GEMINATION/1"),
   (0x85E, "MANDAIC PUNCTUATION"),
   (0x860, "SYRIAC LETTER MALAYALAM NGA;3JA;3NYA;3TTA;3NNA;3NNNA;3BHA;3RA;3LLA;3LLLA;3SSA"),
   (0x870, "ARABIC LETTER ALEF WITH ATTACHED FATHA;5TOP RIGHT/1;4RIGHT MIDDLE STROKE;4LEFT/2;
     4ATTACHED KASRA;5BOTTOM RIGHT/1;5ROUND DOT ABOVE;5RIGHT ROUND DOT;5LEFT/2;5ROUND DOT BELOW;
     4DOT ABOVE;4ATTACHED TOP RIGHT FATHA AND/2;4RIGHT MIDDLE STROKE/3;
     4ATTACHED BOTTOM RIGHT KASRA/3;5TOP RIGHT FATHA AND LEFT RING;4RIGHT MIDDLE STROKE/3;
     4ATTACHED BOTTOM RIGHT KASRA/3;5RIGHT HAMZA;5LEFT/1;1TATWEEL WITH OVERSTRUCK/1;4WAW;
     3TWO DOTS BELOW;1LETTER THIN YEH;1BASELINE ROUND DOT;1RAISED/2;
     1LETTER NOON WITH INVERTED SMALL V;2HAH WITH INVERTED SMALL V BELOW;2TAH WITH DOT/1;
     4THREE DOTS/1;2KEHEH WITH TWO DOTS VERTICALLY/1;1VERTICAL TAIL"),
   (0x890, "ARABIC POUND MARK ABOVE;1PIASTRE/2"),
   (0x898, "ARABIC SMALL HIGH WORD AL-JUZ;2LOW WORD ISHMAAM;4IMAALA;4TASHEEL;1MADDA WAAJIB;
     1SUPERSCRIPT ALEF MOKHASSAS;1DOUBLED MADDA;1HALF MADDA OVER/1;1LETTER BEH WITH SMALL V BELOW;
     4HAMZA ABOVE;2JEEM WITH TWO DOTS/1;2TAH/4;2FEH WITH DOT BELOW AND THREE/2;2QAF WITH DOT BELOW;
     2LAM WITH DOUBLE BAR;2MEEM WITH THREE DOTS ABOVE;2YEH WITH TWO DOTS BELOW AND HAMZA/1;8DOT/1;
     2REH WITH LOOP;2WAW WITH DOT WITHIN;2ROHINGYA YEH;2LOW ALEF;2DAL WITH THREE DOTS BELOW;2SAD/4;
     2GAF WITH INVERTED STROKE;2STRAIGHT WAW;2ZAIN WITH INVERTED V ABOVE;2AIN WITH THREE DOTS BELOW;
     2KAF WITH DOT/1;2QAF WITH DOT BELOW AND NO DOTS ABOVE;2BEH WITH SMALL MEEM/1;2PEH/4;
     2TEH WITH SMALL TEH/1;2REH WITH SMALL NOON/1;2YEH WITH TWO DOTS BELOW AND/3;2AFRICAN FEH;3QAF;
     3NOON;2PEH WITH SMALL V;2TEH/3;2TTEH/3;2TCHEH/3;2KEHEH/3;2GHAIN WITH THREE DOTS ABOVE;
     2AFRICAN QAF/4;2JEEM/4;6BELOW;2LAM WITH SMALL ARABIC LETTER TAH ABOVE;2GRAF;1SMALL FARSI YEH;
     2HIGH/2;3YEH BARREE WITH TWO DOTS BELOW;3WORD SAH;3ZAH;1LARGE ROUND DOT ABOVE;4BELOW;1SUKUN/1;
     1LARGE CIRCLE/1;2ROUND DOT INSIDE/2;1SMALL LOW WAW;2HIGH WORD AR-RUB;3SAD;3AIN;3QAF;
     3NOON WITH KASRA;2LOW/3;2HIGH WORD ATH-THALATHA;4AS-SAJDA;4AN-NISF;4SAKTA;4QIF;4WAQFA;
     3FOOTNOTE MARKER;3SIGN SAFHA;1DISPUTED END OF AYAH;1TURNED DAMMA BELOW;1CURLY FATHA;2DAMMA;
     2KASRA;2FATHATAN;2DAMMATAN;2KASRATAN;1TONE ONE DOT ABOVE;2TWO DOTS/1;2LOOP/1;2ONE DOT BELOW;
     2TWO DOTS/1;2LOOP/1;1OPEN FATHATAN;2DAMMATAN;2KASRATAN;1SMALL HIGH WAW;1FATHA WITH RING;
     3DOT ABOVE;1KASRA WITH DOT BELOW;1LEFT ARROWHEAD ABOVE;1RIGHT/2;1LEFT ARROWHEAD BELOW;1RIGHT/2;
     1DOUBLE RIGHT ARROWHEAD ABOVE;5WITH DOT;ARABIC/5;1DAMMA/2;1MARK SIDEWAYS NOON GHUNNA"),
   (0x900, "DEVANAGARI SIGN INVERTED CANDRABINDU;1SIGN/1;2ANUSVARA;2VISARGA;1LETTER SHORT A;2A;2AA;
     2I;2II;2U;2UU;2VOCALIC R;3L;2CANDRA E;2SHORT E;2E;2AI;2CANDRA O;2SHORT O;2O;2AU;2KA;2KHA;2GA;
     2GHA;2NGA;2CA;2CHA;2JA;2JHA;2NYA;2TTA;2TTHA;2DDA;2DDHA;2NNA;2TA;2THA;2DA;2DHA;2NA;2NNNA;2PA;
     2PHA;2BA;2BHA;2MA;2YA;2RA;2RRA;2LA;2LLA;2LLLA;2VA;2SHA;2SSA;2SA;2HA;1VOWEL SIGN OE;3OOE;
     1SIGN NUKTA;2AVAGRAHA;1VOWEL SIGN AA;3I;3II;3U;3UU;3VOCALIC R;4RR;3CANDRA E;3SHORT E;3E;3AI;
     3CANDRA O;3SHORT O;3O;3AU;1SIGN VIRAMA;1VOWEL SIGN PRISHTHAMATRA E;3AW;1OM;1STRESS SIGN UDATTA;
     3ANUDATTA;1GRAVE ACCENT;1ACUTE/1;1VOWEL SIGN CANDRA LONG E;3UE;3UUE;1LETTER QA;2KHHA;2GHHA;2ZA;
     2DDDHA;2RHA;2FA;2YYA;2VOCALIC RR;3LL;1VOWEL SIGN VOCALIC L;4LL;1DANDA;1DOUBLE/1;1DIGIT ZERO;
     2ONE;2TWO;2THREE;2FOUR;2FIVE;2SIX;2SEVEN;2EIGHT;2NINE;1ABBREVIATION SIGN;
     1SIGN HIGH SPACING DOT;1LETTER CANDRA A;2OE;2OOE;2AW;2UE;2UUE;2MARWARI DDA;2ZHA;2HEAVY YA;2GGA;
     2JJA;2GLOTTAL STOP;2DDDA;2BBA;BENGALI ANJI;1SIGN CANDRABINDU;2ANUSVARA;2VISARGA"),
   (0x985, "BENGALI LETTER A;2AA;2I;2II;2U;2UU;2VOCALIC R;3L"),
   (0x98F, "BENGALI LETTER E;2AI"),
   (0x993, "BENGALI LETTER O;2AU;2KA;2KHA;2GA;2GHA;2NGA;2CA;2CHA;2JA;2JHA;2NYA;2TTA;2TTHA;2DDA;
     2DDHA;2NNA;2TA;2THA;2DA;2DHA;2NA"),
   (0x9AA, "BENGALI LETTER PA;2PHA;2BA;2BHA;2MA;2YA;2RA"),
   (0x9B2, "BENGALI LETTER LA"),
   (0x9B6, "BENGALI LETTER SHA;2SSA;2SA;2HA"),
   (0x9BC, "BENGALI SIGN NUKTA;2AVAGRAHA;1VOWEL SIGN AA;3I;3II;3U;3UU;3VOCALIC R;4RR"),
   (0x9C7, "BENGALI VOWEL SIGN E;3AI"),
   (0x9CB, "BENGALI VOWEL SIGN O;3AU;1SIGN VIRAMA;1LETTER KHANDA TA"),
   (0x9D7, "BENGALI AU LENGTH MARK"),
   (0x9DC, "BENGALI LETTER RRA;2RHA"),
   (0x9DF, "BENGALI LETTER YYA;2VOCALIC RR;3LL;1VOWEL SIGN VOCALIC L;4LL"),
   (0x9E6, "BENGALI DIGIT ZERO;2ONE;2TWO;2THREE;2FOUR;2FIVE;2SIX;2SEVEN;2EIGHT;2NINE;
     1LETTER RA WITH MIDDLE DIAGONAL;4LOWER/1;1RUPEE MARK;2SIGN;1CURRENCY NUMERATOR ONE;3TWO;3THREE;
     3FOUR;3ONE LESS THAN THE DENOMINATOR;2DENOMINATOR SIXTEEN;1ISSHAR;1GANDA MARK;
     1LETTER VEDIC ANUSVARA;1ABBREVIATION SIGN;1SANDHI MARK"),
   (0xA01, "GURMUKHI SIGN ADAK BINDI;2BINDI;2VISARGA"),
   (0xA05, "GURMUKHI LETTER A;2AA;2I;2II;2U;2UU"),
   (0xA0F, "GURMUKHI LETTER EE;2AI"),
   (0xA13, "GURMUKHI LETTER OO;2AU;2KA;2KHA;2GA;2GHA;2NGA;2CA;2CHA;2JA;2JHA;2NYA;2TTA;2TTHA;2DDA;
     2DDHA;2NNA;2TA;2THA;2DA;2DHA;2NA"),
   (0xA2A, "GURMUKHI LETTER PA;2PHA;2BA;2BHA;2MA;2YA;2RA"),
   (0xA32, "GURMUKHI LETTER LA;2LLA"),
   (0xA35, "GURMUKHI LETTER VA;2SHA"),
   (0xA38, "GURMUKHI LETTER SA;2HA"),
   (0xA3C, "GURMUKHI SIGN NUKTA"),
   (0xA3E, "GURMUKHI VOWEL SIGN AA;3I;3II;3U;3UU"),
   (0xA47, "GURMUKHI VOWEL SIGN EE;3AI"),
   (0xA4B, "GURMUKHI VOWEL SIGN OO;3AU;1SIGN VIRAMA"),
   (0xA51, "GURMUKHI SIGN UDAAT"),
   (0xA59, "GURMUKHI LETTER KHHA;2GHHA;2ZA;2RRA"),
   (0xA5E, "GURMUKHI LETTER FA"),
   (0xA66, "GURMUKHI DIGIT ZERO;2ONE;2TWO;2THREE;2FOUR;2FIVE;2SIX;2SEVEN;2EIGHT;2NINE;1TIPPI;1ADDAK;
     1IRI;1URA;1EK ONKAR;1SIGN YAKASH;1ABBREVIATION SIGN"),
   (0xA81, "GUJARATI SIGN CANDRABINDU;2ANUSVARA;2VISARGA"),
   (0xA85, "GUJARATI LETTER A;2AA;2I;2II;2U;2UU;2VOCALIC R;3L;1VOWEL CANDRA E"),
   (0xA8F, "GUJARATI LETTER E;2AI;1VOWEL CANDRA O"),
   (0xA93, "GUJARATI LETTER O;2AU;2KA;2KHA;2GA;2GHA;2NGA;2CA;2CHA;2JA;2JHA;2NYA;2TTA;2TTHA;2DDA;
     2DDHA;2NNA;2TA;2THA;2DA;2DHA;2NA"),
   (0xAAA, "GUJARATI LETTER PA;2PHA;2BA;2BHA;2MA;2YA;2RA"),
   (0xAB2, "GUJARATI LETTER LA;2LLA"),
   (0xAB5, "GUJARATI LETTER VA;2SHA;2SSA;2SA;2HA"),
   (0xABC, "GUJARATI SIGN NUKTA;2AVAGRAHA;1VOWEL SIGN AA;3I;3II;3U;3UU;3VOCALIC R;4RR;3CANDRA E"),
   (0xAC7, "GUJARATI VOWEL SIGN E;3AI;3CANDRA O"),
   (0xACB, "GUJARATI VOWEL SIGN O;3AU;1SIGN VIRAMA"),
   (0xAD0, "GUJARATI OM"),
   (0xAE0, "GUJARATI LETTER VOCALIC RR;3LL;1VOWEL SIGN VOCALIC L;4LL"),
   (0xAE6, "GUJARATI DIGIT ZERO;2ONE;2TWO;2THREE;2FOUR;2FIVE;2SIX;2SEVEN;2EIGHT;2NINE;
     1ABBREVIATION SIGN;1RUPEE/1"),
   (0xAF9, "GUJARATI LETTER ZHA;1SIGN SUKUN;2SHADDA;2MADDAH;2THREE-DOT NUKTA ABOVE;2CIRCLE/2;
     2TWO-CIRCLE/2"),
   (0xB01, "ORIYA SIGN CANDRABINDU;2ANUSVARA;2VISARGA"),
   (0xB05, "ORIYA LETTER A;2AA;2I;2II;2U;2UU;2VOCALIC R;3L"),
   (0xB0F, "ORIYA LETTER E;2AI"),
   (0xB13, "ORIYA LETTER O;2AU;2KA;2KHA;2GA;2GHA;2NGA;2CA;2CHA;2JA;2JHA;2NYA;2TTA;2TTHA;2DDA;2DDHA;
     2NNA;2TA;2THA;2DA;2DHA;2NA"),
   (0xB2A, "ORIYA LETTER PA;2PHA;2BA;2BHA;2MA;2YA;2RA"),
   (0xB32, "ORIYA LETTER LA;2LLA"),
   (0xB35, "ORIYA LETTER VA;2SHA;2SSA;2SA;2HA"),
   (0xB3C, "ORIYA SIGN NUKTA;2AVAGRAHA;1VOWEL SIGN AA;3I;3II;3U;3UU;3VOCALIC R;4RR"),
   (0xB47, "ORIYA VOWEL SIGN E;3AI"),
   (0xB4B, "ORIYA VOWEL SIGN O;3AU;1SIGN VIRAMA"),
   (0xB55, "ORIYA SIGN OVERLINE;1AI LENGTH MARK;1AU/2"),
   (0xB5C, "ORIYA LETTER RRA;2RHA"),
   (0xB5F, "ORIYA LETTER YYA;2VOCALIC RR;3LL;1VOWEL SIGN VOCALIC L;4LL"),
   (0xB66, "ORIYA DIGIT ZERO;2ONE;2TWO;2THREE;2FOUR;2FIVE;2SIX;2SEVEN;2EIGHT;2NINE;1ISSHAR;
     1LETTER WA;1FRACTION ONE QUARTER;3HALF;2THREE QUARTERS;2ONE SIXTEENTH;3EIGHTH;
     2THREE SIXTEENTHS"),
   (0xB82, "TAMIL SIGN ANUSVARA;2VISARGA"),
   (0xB85, "TAMIL LETTER A;2AA;2I;2II;2U;2UU"),
   (0xB8E, "TAMIL LETTER E;2EE;2AI"),
   (0xB92, "TAMIL LETTER O;2OO;2AU;2KA"),
   (0xB99, "TAMIL LETTER NGA;2CA"),
   (0xB9C, "TAMIL LETTER JA"),
   (0xB9E, "TAMIL LETTER NYA;2TTA"),
   (0xBA3, "TAMIL LETTER NNA;2TA"),
   (0xBA8, "TAMIL LETTER NA;2NNNA;2PA"),
   (0xBAE, "TAMIL LETTER MA;2YA;2RA;2RRA;2LA;2LLA;2LLLA;2VA;2SHA;2SSA;2SA;2HA"),
   (0xBBE, "TAMIL VOWEL SIGN AA;3I;3II;3U;3UU"),
   (0xBC6, "TAMIL VOWEL SIGN E;3EE;3AI"),
   (0xBCA, "TAMIL VOWEL SIGN O;3OO;3AU;1SIGN VIRAMA"),
   (0xBD0, "TAMIL OM"),
   (0xBD7, "TAMIL AU LENGTH MARK"),
   (0xBE6, "TAMIL DIGIT ZERO;2ONE;2TWO;2THREE;2FOUR;2FIVE;2SIX;2SEVEN;2EIGHT;2NINE;1NUMBER TEN;
     2ONE HUNDRED;3THOUSAND;1DAY SIGN;1MONTH/1;1YEAR/1;1DEBIT/1;1CREDIT/1;1AS ABOVE/1;1RUPEE/1;
     1NUMBER/1"),
   (0xC00, "TELUGU SIGN COMBINING CANDRABINDU ABOVE;2CANDRABINDU;2ANUSVARA;2VISARGA;
     2COMBINING ANUSVARA ABOVE;1LETTER A;2AA;2I;2II;2U;2UU;2VOCALIC R;3L"),
   (0xC0E, "TELUGU LETTER E;2EE;2AI"),
   (0xC12, "TELUGU LETTER O;2OO;2AU;2KA;2KHA;2GA;2GHA;2NGA;2CA;2CHA;2JA;2JHA;2NYA;2TTA;2TTHA;2DDA;
     2DDHA;2NNA;2TA;2THA;2DA;2DHA;2NA"),
   (0xC2A, "TELUGU LETTER PA;2PHA;2BA;2BHA;2MA;2YA;2RA;2RRA;2LA;2LLA;2LLLA;2VA;2SHA;2SSA;2SA;2HA"),
   (0xC3C, "TELUGU SIGN NUKTA;2AVAGRAHA;1VOWEL SIGN AA;3I;3II;3U;3UU;3VOCALIC R;4RR"),
   (0xC46, "TELUGU VOWEL SIGN E;3EE;3AI"),
   (0xC4A, "TELUGU VOWEL SIGN O;3OO;3AU;1SIGN VIRAMA"),
   (0xC55, "TELUGU LENGTH MARK;1AI/2"),
   (0xC58, "TELUGU LETTER TSA;2DZA;2RRRA"),
   (0xC5D, "TELUGU LETTER NAKAARA POLLU"),
   (0xC60, "TELUGU LETTER VOCALIC RR;3LL;1VOWEL SIGN VOCALIC L;4LL"),
   (0xC66, "TELUGU DIGIT ZERO;2ONE;2TWO;2THREE;2FOUR;2FIVE;2SIX;2SEVEN;2EIGHT;2NINE"),
   (0xC77, "TELUGU SIGN SIDDHAM;1FRACTION DIGIT ZERO FOR ODD POWERS OF FOUR;3ONE/5;3TWO/5;3THREE/5;
     3ONE FOR EVEN/3;3TWO/5;3THREE/5;1SIGN TUUMU;KANNADA SIGN SPACING CANDRABINDU;1SIGN/1;2ANUSVARA;
     2VISARGA;2SIDDHAM;1LETTER A;2AA;2I;2II;2U;2UU;2VOCALIC R;3L"),
   (0xC8E, "KANNADA LETTER E;2EE;2AI"),
   (0xC92, "KANNADA LETTER O;2OO;2AU;2KA;2KHA;2GA;2GHA;2NGA;2CA;2CHA;2JA;2JHA;2NYA;2TTA;2TTHA;2DDA;
     2DDHA;2NNA;2TA;2THA;2DA;2DHA;2NA"),
   (0xCAA, "KANNADA LETTER PA;2PHA;2BA;2BHA;2MA;2YA;2RA;2RRA;2LA;2LLA"),
   (0xCB5, "KANNADA LETTER VA;2SHA;2SSA;2SA;2HA"),
   (0xCBC, "KANNADA SIGN NUKTA;2AVAGRAHA;1VOWEL SIGN AA;3I;3II;3U;3UU;3VOCALIC R;4RR"),
   (0xCC6, "KANNADA VOWEL SIGN E;3EE;3AI"),
   (0xCCA, "KANNADA VOWEL SIGN O;3OO;3AU;1SIGN VIRAMA"),
   (0xCD5, "KANNADA LENGTH MARK;1AI/2"),
   (0xCDD, "KANNADA LETTER NAKAARA POLLU;2FA"),
   (0xCE0, "KANNADA LETTER VOCALIC RR;3LL;1VOWEL SIGN VOCALIC L;4LL"),
   (0xCE6, "KANNADA DIGIT ZERO;2ONE;2TWO;2THREE;2FOUR;2FIVE;2SIX;2SEVEN;2EIGHT;2NINE"),
   (0xCF1, "KANNADA SIGN JIHVAMULIYA;2UPADHMANIYA"),
   (0xD00, "MALAYALAM SIGN COMBINING ANUSVARA ABOVE;2CANDRABINDU;2ANUSVARA;2VISARGA;
     1LETTER VEDIC ANUSVARA;2A;2AA;2I;2II;2U;2UU;2VOCALIC R;3L"),
   (0xD0E, "MALAYALAM LETTER E;2EE;2AI"),
   (0xD12, "MALAYALAM LETTER O;2OO;2AU;2KA;2KHA;2GA;2GHA;2NGA;2CA;2CHA;2JA;2JHA;2NYA;2TTA;2TTHA;
     2DDA;2DDHA;2NNA;2TA;2THA;2DA;2DHA;2NA;2NNNA;2PA;2PHA;2BA;2BHA;2MA;2YA;2RA;2RRA;2LA;2LLA;2LLLA;
     2VA;2SHA;2SSA;2SA;2HA;2TTTA;1SIGN VERTICAL BAR VIRAMA;2CIRCULAR/1;2AVAGRAHA;1VOWEL SIGN AA;3I;
     3II;3U;3UU;3VOCALIC R;4RR"),
   (0xD46, "MALAYALAM VOWEL SIGN E;3EE;3AI"),
   (0xD4A, "MALAYALAM VOWEL SIGN O;3OO;3AU;1SIGN VIRAMA;1LETTER DOT REPH;1SIGN PARA"),
   (0xD54, "MALAYALAM LETTER CHILLU M;3Y;3LLL;1AU LENGTH MARK;
     1FRACTION ONE ONE-HUNDRED-AND-SIXTIETH;3FORTIETH;2THREE EIGHTIETHS;2ONE TWENTIETH;3TENTH;
     2THREE TWENTIETHS;2ONE FIFTH;1LETTER ARCHAIC II;2VOCALIC RR;3LL;1VOWEL SIGN VOCALIC L;4LL"),
   (0xD66, "MALAYALAM DIGIT ZERO;2ONE;2TWO;2THREE;2FOUR;2FIVE;2SIX;2SEVEN;2EIGHT;2NINE;1NUMBER TEN;
     2ONE HUNDRED;3THOUSAND;1FRACTION ONE QUARTER;3HALF;2THREE QUARTERS;2ONE SIXTEENTH;3EIGHTH;
     2THREE SIXTEENTHS;1DATE MARK;1LETTER CHILLU NN;3N;3RR;3L;3LL;3K"),
   (0xD81, "SINHALA SIGN CANDRABINDU;2ANUSVARAYA;2VISARGAYA"),
   (0xD85, "SINHALA LETTER AYANNA;2AAYANNA;2AEYANNA;2AEEYANNA;2IYANNA;2IIYANNA;2UYANNA;2UUYANNA;
     2IRUYANNA;2IRUUYANNA;2ILUYANNA;2ILUUYANNA;2EYANNA;2EEYANNA;2AIYANNA;2OYANNA;2OOYANNA;
     2AUYANNA"),
   (0xD9A, "SINHALA LETTER ALPAPRAANA KAYANNA;2MAHAAPRAANA/1;2ALPAPRAANA GAYANNA;2MAHAAPRAANA/1;
     2KANTAJA NAASIKYAYA;2SANYAKA GAYANNA;2ALPAPRAANA CAYANNA;2MAHAAPRAANA/1;2ALPAPRAANA JAYANNA;
     2MAHAAPRAANA/1;2TAALUJA NAASIKYAYA;3SANYOOGA NAAKSIKYAYA;2SANYAKA JAYANNA;2ALPAPRAANA TTAYANNA;
     2MAHAAPRAANA/1;2ALPAPRAANA DDAYANNA;2MAHAAPRAANA/1;2MUURDHAJA NAYANNA;2SANYAKA DDAYANNA;
     2ALPAPRAANA TAYANNA;2MAHAAPRAANA/1;2ALPAPRAANA DAYANNA;2MAHAAPRAANA/1;2DANTAJA NAYANNA"),
   (0xDB3, "SINHALA LETTER SANYAKA DAYANNA;2ALPAPRAANA PAYANNA;2MAHAAPRAANA/1;2ALPAPRAANA BAYANNA;
     2MAHAAPRAANA/1;2MAYANNA;2AMBA BAYANNA;2YAYANNA;2RAYANNA"),
   (0xDBD, "SINHALA LETTER DANTAJA LAYANNA"),
   (0xDC0, "SINHALA LETTER VAYANNA;2TAALUJA SAYANNA;2MUURDHAJA/1;2DANTAJA/1;2HAYANNA;
     2MUURDHAJA LAYANNA;2FAYANNA"),
   (0xDCA, "SINHALA SIGN AL-LAKUNA"),
   (0xDCF, "SINHALA VOWEL SIGN AELA-PILLA;3KETTI AEDA-PILLA;3DIGA/1;3KETTI IS-PILLA;3DIGA/1;
     3KETTI PAA-PILLA"),
   (0xDD6, "SINHALA VOWEL SIGN DIGA PAA-PILLA"),
   (0xDD8, "SINHALA VOWEL SIGN GAETTA-PILLA;3KOMBUVA;3DIGA/1;3KOMBU DEKA;3KOMBUVA HAA AELA-PILLA;
     5DIGA/1;5GAYANUKITTA;2SIGN/1"),
   (0xDE6, "SINHALA LITH DIGIT ZERO;3ONE;3TWO;3THREE;3FOUR;3FIVE;3SIX;3SEVEN;3EIGHT;3NINE"),
   (0xDF2, "SINHALA VOWEL SIGN DIGA GAETTA-PILLA;4GAYANUKITTA;1PUNCTUATION KUNDDALIYA"),
   (0xE01, "THAI CHARACTER KO KAI;2KHO KHAI;3KHUAT;3KHWAI;3KHON;3RAKHANG;2NGO NGU;2CHO CHAN;3CHING;
     3CHANG;2SO SO;2CHO CHOE;2YO YING;2DO CHADA;2TO PATAK;2THO THAN;3NANGMONTHO;3PHUTHAO;2NO NEN;
     2DO DEK;2TO TAO;2THO THUNG;3THAHAN;3THONG;2NO NU;2BO BAIMAI;2PO PLA;2PHO PHUNG;2FO FA;
     2PHO PHAN;2FO FAN;2PHO SAMPHAO;2MO MA;2YO YAK;2RO RUA;2RU;2LO LING;2LU;2WO WAEN;2SO SALA;3RUSI;
     3SUA;2HO HIP;2LO CHULA;2O ANG;2HO NOKHUK;2PAIYANNOI;2SARA A;2MAI HAN-AKAT;2SARA AA;3AM;3I;3II;
     3UE;3UEE;3U;3UU;2PHINTHU"),
   (0xE3F, "THAI CURRENCY SYMBOL BAHT;1CHARACTER SARA E;3AE;3O;3AI MAIMUAN;4MAIMALAI;2LAKKHANGYAO;
     2MAIYAMOK;2MAITAIKHU;2MAI EK;3THO;3TRI;3CHATTAWA;2THANTHAKHAT;2NIKHAHIT;2YAMAKKAN;2FONGMAN;
     1DIGIT ZERO;2ONE;2TWO;2THREE;2FOUR;2FIVE;2SIX;2SEVEN;2EIGHT;2NINE;1CHARACTER ANGKHANKHU;
     2KHOMUT"),
   (0xE81, "LAO LETTER KO;2KHO SUNG"),
   (0xE84, "LAO LETTER KHO TAM"),
   (0xE86, "LAO LETTER PALI GHA;2NGO;2CO;2PALI CHA;2SO TAM"),
   (0xE8C, "LAO LETTER PALI JHA;2NYO;2PALI NYA;3TTA;3TTHA;3DDA;3DDHA;3NNA;2DO;2TO;2THO SUNG;3TAM;
     2PALI DHA;2NO;2BO;2PO;2PHO SUNG;2FO TAM;2PHO/1;2FO SUNG;2PALI BHA;2MO;2YO;2LO LING"),
   (0xEA5, "LAO LETTER LO LOOT"),
   (0xEA7, "LAO LETTER WO;2SANSKRIT SHA;3SSA;2SO SUNG;2HO/1;2PALI LLA;2O;2HO TAM;1ELLIPSIS;
     1VOWEL SIGN A;3MAI KAN;3AA;3AM;3I;3II;3Y;3YY;3U;3UU;1SIGN PALI VIRAMA;1VOWEL SIGN MAI KON;
     1SEMIVOWEL SIGN LO;3NYO"),
   (0xEC0, "LAO VOWEL SIGN E;3EI;3O;3AY;3AI"),
   (0xEC6, "LAO KO LA"),
   (0xEC8, "LAO TONE MAI EK;3THO;3TI;3CATAWA;1CANCELLATION MARK;1NIGGAHITA"),
   (0xED0, "LAO DIGIT ZERO;2ONE;2TWO;2THREE;2FOUR;2FIVE;2SIX;2SEVEN;2EIGHT;2NINE"),
   (0xEDC, "LAO HO NO;2MO;1LETTER KHMU GO;3NYO"),
   (0xF00, "TIBETAN SYLLABLE OM;1MARK GTER YIG MGO TRUNCATED A;5-UM RNAM BCAD MA;6GTER TSHEG/1;
     2INITIAL YIG MGO MDUN/1;2CLOSING YIG MGO SGAB/1;2CARET YIG MGO PHUR SHAD/1;2YIG MGO TSHEG/2;
     2SBRUL SHAD;2BSKUR YIG MGO;2BKA- SHOG/2;2INTERSYLLABIC TSHEG;2DELIMITER TSHEG BSTAR;2SHAD;
     2NYIS/1;2TSHEG/1;2NYIS/2;2RIN CHEN SPUNGS/1;2RGYA GRAM/1;2CARET -DZUD RTAGS ME LONG CAN;
     2GTER TSHEG;1LOGOTYPE SIGN CHAD RTAGS;3LHAG/1;1ASTROLOGICAL SIGN SGRA GCAN -CHAR/1;3-KHYUD PA;
     3SDONG TSHUGS;1SIGN RDEL DKAR GCIG;4GNYIS;4GSUM;3NAG GCIG;4GNYIS;3DKAR RDEL NAG;1DIGIT ZERO;
     2ONE;2TWO;2THREE;2FOUR;2FIVE;2SIX;2SEVEN;2EIGHT;2NINE;2HALF ONE;3TWO;3THREE;3FOUR;3FIVE;3SIX;
     3SEVEN;3EIGHT;3NINE;3ZERO;1MARK BSDUS RTAGS;2NGAS BZUNG NYI ZLA;
     2CARET -DZUD RTAGS BZHI MIG CAN;2NGAS BZUNG SGOR RTAGS;2CHE MGO;2TSA -PHRU;2GUG RTAGS GYON;
     4GYAS;2ANG KHANG GYON;4GYAS;1SIGN YAR TSHES;2MAR/1;1LETTER KA;2KHA;2GA;2GHA;2NGA;2CA;2CHA;
     2JA"),
   (0xF49, "TIBETAN LETTER NYA;2TTA;2TTHA;2DDA;2DDHA;2NNA;2TA;2THA;2DA;2DHA;2NA;2PA;2PHA;2BA;2BHA;
     2MA;2TSA;2TSHA;2DZA;2DZHA;2WA;2ZHA;2ZA;2-A;2YA;2RA;2LA;2SHA;2SSA;2SA;2HA;2A;2KSSA;
     2FIXED-FORM RA;2KKA;2RRA"),
   (0xF71, "TIBETAN VOWEL SIGN AA;3I;3II;3U;3UU;3VOCALIC R;4RR;4L;4LL;3E;3EE;3O;3OO;
     1SIGN RJES SU NGA RO;2RNAM BCAD;1VOWEL SIGN REVERSED I;4II;1SIGN NYI ZLA NAA DA;2SNA LDAN;
     1MARK HALANTA;2PALUTA;1SIGN LCI RTAGS;2YANG/1;2LCE TSA CAN;2MCHU/1;2GRU CAN RGYINGS;3MED/1;
     2INVERTED MCHU CAN;1SUBJOINED SIGN LCE TSA/1;3MCHU/1;3INVERTED/2;2LETTER KA;3KHA;3GA;3GHA;3NGA;
     3CA;3CHA;3JA"),
   (0xF99, "TIBETAN SUBJOINED LETTER NYA;3TTA;3TTHA;3DDA;3DDHA;3NNA;3TA;3THA;3DA;3DHA;3NA;3PA;3PHA;
     3BA;3BHA;3MA;3TSA;3TSHA;3DZA;3DZHA;3WA;3ZHA;3ZA;3-A;3YA;3RA;3LA;3SHA;3SSA;3SA;3HA;3A;3KSSA;
     3FIXED-FORM WA;4YA;4RA"),
   (0xFBE, "TIBETAN KU RU KHA;4BZHI MIG CAN;1CANTILLATION SIGN HEAVY BEAT;3LIGHT/1;3CANG TE-U;
     3SBUB -CHAL;1SYMBOL DRIL BU;2RDO RJE;2PADMA GDAN;2RDO RJE RGYA GRAM;2PHUR PA;2NOR BU;
     4NYIS -KHYIL;4GSUM/1;4BZHI/1"),
   (0xFCE, "TIBETAN SIGN RDEL NAG RDEL DKAR;4GSUM;1MARK BSKA- SHOG GI MGO RGYAN;2MNYAM YIG/3;
     2NYIS TSHEG;2INITIAL BRDA RNYING YIG MGO MDUN MA;2CLOSING BRDA RNYING YIG MGO SGAB/1;
     RIGHT-FACING SVASTI SIGN;LEFT-FACING/2;RIGHT-FACING SVASTI SIGN WITH DOTS;LEFT-FACING/4;
     TIBETAN MARK LEADING MCHAN RTAGS;2TRAILING/2"),
   (0x1000, "MYANMAR LETTER KA;2KHA;2GA;2GHA;2NGA;2CA;2CHA;2JA;2JHA;2NYA;2NNYA;2TTA;2TTHA;2DDA;
     2DDHA;2NNA;2TA;2THA;2DA;2DHA;2NA;2PA;2PHA;2BA;2BHA;2MA;2YA;2RA;2LA;2WA;2SA;2HA;2LLA;2A;2SHAN A;
     2I;2II;2U;2UU;2E;2MON E;2O;2AU;1VOWEL SIGN TALL AA;3AA;3I;3II;3U;3UU;3E;3AI;3MON II;4O;
     3E ABOVE;1SIGN ANUSVARA;2DOT BELOW;2VISARGA;2VIRAMA;2ASAT;1CONSONANT SIGN MEDIAL YA;4RA;4WA;
     4HA;1LETTER GREAT SA;1DIGIT ZERO;2ONE;2TWO;2THREE;2FOUR;2FIVE;2SIX;2SEVEN;2EIGHT;2NINE;
     1SIGN LITTLE SECTION;1SIGN/1;1SYMBOL LOCATIVE;2COMPLETED;2AFOREMENTIONED;2GENITIVE;1LETTER SHA;
     2SSA;2VOCALIC R;3RR;3L;3LL;1VOWEL SIGN VOCALIC R;4RR;4L;4LL;1LETTER MON NGA;3JHA;3BBA;3BBE;
     1CONSONANT SIGN MON MEDIAL NA;5MA;5LA;1LETTER SGAW KAREN SHA;1VOWEL SIGN SGAW KAREN EU;
     1TONE MARK SGAW KAREN HATHI;5KE PHO;1LETTER WESTERN PWO KAREN THA;5PWA;
     1VOWEL SIGN WESTERN PWO KAREN EU;6UE;1SIGN WESTERN PWO KAREN TONE-1;+4;
     1LETTER EASTERN PWO KAREN NNA;5YWA;5GHWA;1VOWEL SIGN GEBA KAREN I;3KAYAH OE;4U;4EE;
     1LETTER SHAN KA;3KHA;3GA;3CA;3ZA;3NYA;3DA;3NA;3PHA;3FA;3BA;3THA;3HA;
     1CONSONANT SIGN SHAN MEDIAL WA;1VOWEL SIGN SHAN AA;4E;5ABOVE;4FINAL Y;1SIGN SHAN TONE-2;+1;
     3TONE-5;+1;3COUNCIL TONE-2;+1;4EMPHATIC TONE;1LETTER RUMAI PALAUNG FA;
     1SIGN RUMAI PALAUNG TONE-5;1SHAN DIGIT ZERO;3ONE;3TWO;3THREE;3FOUR;3FIVE;3SIX;3SEVEN;3EIGHT;
     3NINE;1SIGN KHAMTI TONE-1;3TONE-3;1VOWEL SIGN AITON A;4AI;1SYMBOL SHAN ONE;3EXCLAMATION;
     GEORGIAN CAPITAL LETTER AN;3BAN;3GAN;3DON;3EN;3VIN;3ZEN;3TAN;3IN;3KAN;3LAS;3MAN;3NAR;3ON;3PAR;
     3ZHAR;3RAE;3SAN;3TAR;3UN;3PHAR;3KHAR;3GHAN;3QAR;3SHIN;3CHIN;3CAN;3JIL;3CIL;3CHAR;3XAN;3JHAN;
     3HAE;3HE;3HIE;3WE;3HAR;3HOE"),
   (0x10C7, "GEORGIAN CAPITAL LETTER YN"),
   (0x10CD, "GEORGIAN CAPITAL LETTER AEN"),
   (0x10D0, "GEORGIAN LETTER AN;2BAN;2GAN;2DON;2EN;2VIN;2ZEN;2TAN;2IN;2KAN;2LAS;2MAN;2NAR;2ON;2PAR;
     2ZHAR;2RAE;2SAN;2TAR;2UN;2PHAR;2KHAR;2GHAN;2QAR;2SHIN;2CHIN;2CAN;2JIL;2CIL;2CHAR;2XAN;2JHAN;
     2HAE;2HE;2HIE;2WE;2HAR;2HOE;2FI;2YN;2ELIFI;2TURNED GAN;2AIN;1PARAGRAPH SEPARATOR;
     MODIFIER LETTER GEORGIAN NAR;GEORGIAN LETTER AEN;2HARD SIGN;2LABIAL/1"),
   (0x1100, "HANGUL CHOSEONG KIYEOK;2SSANGKIYEOK;2NIEUN;2TIKEUT;2SSANGTIKEUT;2RIEUL;2MIEUM;2PIEUP;
     2SSANGPIEUP;2SIOS;2SSANGSIOS;2IEUNG;2CIEUC;2SSANGCIEUC;2CHIEUCH;2KHIEUKH;2THIEUTH;2PHIEUPH;
     2HIEUH;2NIEUN-KIYEOK;2SSANGNIEUN;2NIEUN-TIKEUT;2NIEUN-PIEUP;2TIKEUT-KIYEOK;2RIEUL-NIEUN;
     2SSANGRIEUL;2RIEUL-HIEUH;2KAPYEOUNRIEUL;2MIEUM-PIEUP;2KAPYEOUNMIEUM;2PIEUP-KIYEOK;2PIEUP-NIEUN;
     2PIEUP-TIKEUT;2PIEUP-SIOS;2PIEUP-SIOS-KIYEOK;2PIEUP-SIOS-TIKEUT;2PIEUP-SIOS-PIEUP;
     2PIEUP-SSANGSIOS;2PIEUP-SIOS-CIEUC;2PIEUP-CIEUC;2PIEUP-CHIEUCH;2PIEUP-THIEUTH;2PIEUP-PHIEUPH;
     2KAPYEOUNPIEUP;2KAPYEOUNSSANGPIEUP;2SIOS-KIYEOK;2SIOS-NIEUN;2SIOS-TIKEUT;2SIOS-RIEUL;
     2SIOS-MIEUM;2SIOS-PIEUP;2SIOS-PIEUP-KIYEOK;2SIOS-SSANGSIOS;2SIOS-IEUNG;2SIOS-CIEUC;
     2SIOS-CHIEUCH;2SIOS-KHIEUKH;2SIOS-THIEUTH;2SIOS-PHIEUPH;2SIOS-HIEUH;2CHITUEUMSIOS;
     2CHITUEUMSSANGSIOS;2CEONGCHIEUMSIOS;2CEONGCHIEUMSSANGSIOS;2PANSIOS;2IEUNG-KIYEOK;2IEUNG-TIKEUT;
     2IEUNG-MIEUM;2IEUNG-PIEUP;2IEUNG-SIOS;2IEUNG-PANSIOS;2SSANGIEUNG;2IEUNG-CIEUC;2IEUNG-CHIEUCH;
     2IEUNG-THIEUTH;2IEUNG-PHIEUPH;2YESIEUNG;2CIEUC-IEUNG;2CHITUEUMCIEUC;2CHITUEUMSSANGCIEUC;
     2CEONGCHIEUMCIEUC;2CEONGCHIEUMSSANGCIEUC;2CHIEUCH-KHIEUKH;2CHIEUCH-HIEUH;2CHITUEUMCHIEUCH;
     2CEONGCHIEUMCHIEUCH;2PHIEUPH-PIEUP;2KAPYEOUNPHIEUPH;2SSANGHIEUH;2YEORINHIEUH;2KIYEOK-TIKEUT;
     2NIEUN-SIOS;2NIEUN-CIEUC;2NIEUN-HIEUH;2TIKEUT-RIEUL;2FILLER;1JUNGSEONG/1;2A;2AE;2YA;2YAE;2EO;
     2E;2YEO;2YE;2O;2WA;2WAE;2OE;2YO;2U;2WEO;2WE;2WI;2YU;2EU;2YI;2I;2A-O;2A-U;2YA-O;2YA-YO;2EO-O;
     2EO-U;2EO-EU;2YEO-O;2YEO-U;2O-EO;2O-E;2O-YE;2O-O;2O-U;2YO-YA;2YO-YAE;2YO-YEO;2YO-O;2YO-I;2U-A;
     2U-AE;2U-EO-EU;2U-YE;2U-U;2YU-A;2YU-EO;2YU-E;2YU-YEO;2YU-YE;2YU-U;2YU-I;2EU-U;2EU-EU;2YI-U;
     2I-A;2I-YA;2I-O;2I-U;2I-EU;2I-ARAEA;2ARAEA;2ARAEA-EO;2ARAEA-U;2ARAEA-I;2SSANGARAEA;2A-EU;2YA-U;
     2YEO-YA;2O-YA;2O-YAE;1JONGSEONG KIYEOK;2SSANGKIYEOK;2KIYEOK-SIOS;2NIEUN;2NIEUN-CIEUC;
     2NIEUN-HIEUH;2TIKEUT;2RIEUL;2RIEUL-KIYEOK;2RIEUL-MIEUM;2RIEUL-PIEUP;2RIEUL-SIOS;2RIEUL-THIEUTH;
     2RIEUL-PHIEUPH;2RIEUL-HIEUH;2MIEUM;2PIEUP;2PIEUP-SIOS;2SIOS;2SSANGSIOS;2IEUNG;2CIEUC;2CHIEUCH;
     2KHIEUKH;2THIEUTH;2PHIEUPH;2HIEUH;2KIYEOK-RIEUL;2KIYEOK-SIOS-KIYEOK;2NIEUN-KIYEOK;
     2NIEUN-TIKEUT;2NIEUN-SIOS;2NIEUN-PANSIOS;2NIEUN-THIEUTH;2TIKEUT-KIYEOK;2TIKEUT-RIEUL;
     2RIEUL-KIYEOK-SIOS;2RIEUL-NIEUN;2RIEUL-TIKEUT;2RIEUL-TIKEUT-HIEUH;2SSANGRIEUL;
     2RIEUL-MIEUM-KIYEOK;2RIEUL-MIEUM-SIOS;2RIEUL-PIEUP-SIOS;2RIEUL-PIEUP-HIEUH;
     2RIEUL-KAPYEOUNPIEUP;2RIEUL-SSANGSIOS;2RIEUL-PANSIOS;2RIEUL-KHIEUKH;2RIEUL-YEORINHIEUH;
     2MIEUM-KIYEOK;2MIEUM-RIEUL;2MIEUM-PIEUP;2MIEUM-SIOS;2MIEUM-SSANGSIOS;2MIEUM-PANSIOS;
     2MIEUM-CHIEUCH;2MIEUM-HIEUH;2KAPYEOUNMIEUM;2PIEUP-RIEUL;2PIEUP-PHIEUPH;2PIEUP-HIEUH;
     2KAPYEOUNPIEUP;2SIOS-KIYEOK;2SIOS-TIKEUT;2SIOS-RIEUL;2SIOS-PIEUP;2PANSIOS;2IEUNG-KIYEOK;
     2IEUNG-SSANGKIYEOK;2SSANGIEUNG;2IEUNG-KHIEUKH;2YESIEUNG;2YESIEUNG-SIOS;2YESIEUNG-PANSIOS;
     2PHIEUPH-PIEUP;2KAPYEOUNPHIEUPH;2HIEUH-NIEUN;2HIEUH-RIEUL;2HIEUH-MIEUM;2HIEUH-PIEUP;
     2YEORINHIEUH;2KIYEOK-NIEUN;2KIYEOK-PIEUP;2KIYEOK-CHIEUCH;2KIYEOK-KHIEUKH;2KIYEOK-HIEUH;
     2SSANGNIEUN"),
   (0x1200, "ETHIOPIC SYLLABLE HA;2HU;2HI;2HAA;2HEE;2HE;2HO;2HOA;2LA;2LU;2LI;2LAA;2LEE;2LE;2LO;2LWA;
     2HHA;2HHU;2HHI;2HHAA;2HHEE;2HHE;2HHO;2HHWA;2MA;2MU;2MI;2MAA;2MEE;2ME;2MO;2MWA;2SZA;2SZU;2SZI;
     2SZAA;2SZEE;2SZE;2SZO;2SZWA;2RA;2RU;2RI;2RAA;2REE;2RE;2RO;2RWA;2SA;2SU;2SI;2SAA;2SEE;2SE;2SO;
     2SWA;2SHA;2SHU;2SHI;2SHAA;2SHEE;2SHE;2SHO;2SHWA;2QA;2QU;2QI;2QAA;2QEE;2QE;2QO;2QOA;2QWA"),
   (0x124A, "ETHIOPIC SYLLABLE QWI;2QWAA;2QWEE;2QWE"),
   (0x1250, "ETHIOPIC SYLLABLE QHA;2QHU;2QHI;2QHAA;2QHEE;2QHE;2QHO"),
   (0x1258, "ETHIOPIC SYLLABLE QHWA"),
   (0x125A, "ETHIOPIC SYLLABLE QHWI;2QHWAA;2QHWEE;2QHWE"),
   (0x1260, "ETHIOPIC SYLLABLE BA;2BU;2BI;2BAA;2BEE;2BE;2BO;2BWA;2VA;2VU;2VI;2VAA;2VEE;2VE;2VO;2VWA;
     2TA;2TU;2TI;2TAA;2TEE;2TE;2TO;2TWA;2CA;2CU;2CI;2CAA;2CEE;2CE;2CO;2CWA;2XA;2XU;2XI;2XAA;2XEE;
     2XE;2XO;2XOA;2XWA"),
   (0x128A, "ETHIOPIC SYLLABLE XWI;2XWAA;2XWEE;2XWE"),
   (0x1290, "ETHIOPIC SYLLABLE NA;2NU;2NI;2NAA;2NEE;2NE;2NO;2NWA;2NYA;2NYU;2NYI;2NYAA;2NYEE;2NYE;
     2NYO;2NYWA;2GLOTTAL A;3U;3I;3AA;3EE;3E;3O;3WA;2KA;2KU;2KI;2KAA;2KEE;2KE;2KO;2KOA;2KWA"),
   (0x12B2, "ETHIOPIC SYLLABLE KWI;2KWAA;2KWEE;2KWE"),
   (0x12B8, "ETHIOPIC SYLLABLE KXA;2KXU;2KXI;2KXAA;2KXEE;2KXE;2KXO"),
   (0x12C0, "ETHIOPIC SYLLABLE KXWA"),
   (0x12C2, "ETHIOPIC SYLLABLE KXWI;2KXWAA;2KXWEE;2KXWE"),
   (0x12C8, "ETHIOPIC SYLLABLE WA;2WU;2WI;2WAA;2WEE;2WE;2WO;2WOA;2PHARYNGEAL A;3U;3I;3AA;3EE;3E;
     3O"),
   (0x12D8, "ETHIOPIC SYLLABLE ZA;2ZU;2ZI;2ZAA;2ZEE;2ZE;2ZO;2ZWA;2ZHA;2ZHU;2ZHI;2ZHAA;2ZHEE;2ZHE;
     2ZHO;2ZHWA;2YA;2YU;2YI;2YAA;2YEE;2YE;2YO;2YOA;2DA;2DU;2DI;2DAA;2DEE;2DE;2DO;2DWA;2DDA;2DDU;
     2DDI;2DDAA;2DDEE;2DDE;2DDO;2DDWA"),
   (0x1300, "ETHIOPIC SYLLABLE JA;2JU;2JI;2JAA;2JEE;2JE;2JO;2JWA;2GA;2GU;2GI;2GAA;2GEE;2GE;2GO;2GOA;
     2GWA"),
   (0x1312, "ETHIOPIC SYLLABLE GWI;2GWAA;2GWEE;2GWE"),
   (0x1318, "ETHIOPIC SYLLABLE GGA;2GGU;2GGI;2GGAA;2GGEE;2GGE;2GGO;2GGWAA;2THA;2THU;2THI;2THAA;
     2THEE;2THE;2THO;2THWA;2CHA;2CHU;2CHI;2CHAA;2CHEE;2CHE;2CHO;2CHWA;2PHA;2PHU;2PHI;2PHAA;2PHEE;
     2PHE;2PHO;2PHWA;2TSA;2TSU;2TSI;2TSAA;2TSEE;2TSE;2TSO;2TSWA;2TZA;2TZU;2TZI;2TZAA;2TZEE;2TZE;
     2TZO;2TZOA;2FA;2FU;2FI;2FAA;2FEE;2FE;2FO;2FWA;2PA;2PU;2PI;2PAA;2PEE;2PE;2PO;2PWA;2RYA;2MYA;
     2FYA"),
   (0x135D, "ETHIOPIC COMBINING GEMINATION AND VOWEL LENGTH MARK;2VOWEL/2;2GEMINATION/1;1SECTION/1;
     1WORDSPACE;1FULL STOP;1COMMA;1SEMICOLON;1COLON;1PREFACE/1;1QUESTION MARK;1PARAGRAPH SEPARATOR;
     1DIGIT ONE;2TWO;2THREE;2FOUR;2FIVE;2SIX;2SEVEN;2EIGHT;2NINE;1NUMBER TEN;2TWENTY;2THIRTY;2FORTY;
     2FIFTY;2SIXTY;2SEVENTY;2EIGHTY;2NINETY;2HUNDRED;2TEN THOUSAND"),
   (0x1380, "ETHIOPIC SYLLABLE SEBATBEIT MWA;2MWI;2MWEE;2MWE;2SEBATBEIT BWA;2BWI;2BWEE;2BWE;
     2SEBATBEIT FWA;2FWI;2FWEE;2FWE;2SEBATBEIT PWA;2PWI;2PWEE;2PWE;1TONAL MARK YIZET;3DERET;3RIKRIK;
     3SHORT/1;3DIFAT;3KENAT;3CHIRET;3HIDET;3DERET-HIDET;3KURT"),
   (0x13A0, "CHEROKEE LETTER A;2E;2I;2O;2U;+1;2GA;2KA;2GE;2GI;2GO;2GU;+1;2HA;2HE;2HI;2HO;2HU;+1;2LA;
     2LE;2LI;2LO;2LU;+1;2MA;2ME;2MI;2MO;2MU;2NA;2HNA;2NAH;2NE;2NI;2NO;2NU;+1;2QUA;2QUE;2QUI;2QUO;
     2QUU;+1;2SA;2S;2SE;2SI;2SO;2SU;+1;2DA;2TA;2DE;2TE;2DI;2TI;2DO;2DU;+1;2DLA;2TLA;2TLE;2TLI;2TLO;
     2TLU;+1;2TSA;2TSE;2TSI;2TSO;2TSU;+1;2WA;2WE;2WI;2WO;2WU;+1;2YA;2YE;2YI;2YO;2YU;+1;2MV"),
   (0x13F8, "CHEROKEE SMALL LETTER YE;3YI;3YO;3YU;+1;3MV"),
   (0x1400, "CANADIAN SYLLABICS HYPHEN;2E;2AAI;2I;2II;2O;2OO;2Y-CREE/1;2CARRIER EE;3I;2A;2AA;2WE;
     2WEST-CREE/1;2WI;2WEST-CREE/1;2WII;2WEST-CREE/1;2WO;2WEST-CREE/1;2WOO;2WEST-CREE/1;2NASKAPI/1;
     2WA;2WEST-CREE/1;2WAA;2WEST-CREE/1;2NASKAPI/1;2AI;2Y-CREE W;2GLOTTAL STOP;2FINAL ACUTE;3GRAVE;
     3BOTTOM HALF RING;3TOP/2;3RIGHT/2;3RING;3DOUBLE ACUTE;4SHORT VERTICAL STROKES;3MIDDLE DOT;
     3SHORT HORIZONTAL STROKE;3PLUS;3DOWN TACK;2EN;2IN;2ON;2AN;2PE;2PAAI;2PI;2PII;2PO;2POO;
     2Y-CREE/1;2CARRIER HEE;3HI;2PA;2PAA;2PWE;2WEST-CREE/1;2PWI;2WEST-CREE/1;2PWII;2WEST-CREE/1;
     2PWO;2WEST-CREE/1;2PWOO;2WEST-CREE/1;2PWA;2WEST-CREE/1;2PWAA;2WEST-CREE/1;2Y-CREE/1;2P;
     2WEST-CREE P;2CARRIER H;2TE;2TAAI;2TI;2TII;2TO;2TOO;2Y-CREE/1;2CARRIER DEE;3DI;2TA;2TAA;2TWE;
     2WEST-CREE/1;2TWI;2WEST-CREE/1;2TWII;2WEST-CREE/1;2TWO;2WEST-CREE/1;2TWOO;2WEST-CREE/1;2TWA;
     2WEST-CREE/1;2TWAA;2WEST-CREE/1;2NASKAPI/1;2T;2TTE;2TTI;2TTO;2TTA;2KE;2KAAI;2KI;2KII;2KO;2KOO;
     2Y-CREE/1;2KA;2KAA;2KWE;2WEST-CREE/1;2KWI;2WEST-CREE/1;2KWII;2WEST-CREE/1;2KWO;2WEST-CREE/1;
     2KWOO;2WEST-CREE/1;2KWA;2WEST-CREE/1;2KWAA;2WEST-CREE/1;2NASKAPI/1;2K;2KW;2SOUTH-SLAVEY KEH;
     3KIH;3KOH;3KAH;2CE;2CAAI;2CI;2CII;2CO;2COO;2Y-CREE/1;2CA;2CAA;2CWE;2WEST-CREE/1;2CWI;
     2WEST-CREE/1;2CWII;2WEST-CREE/1;2CWO;2WEST-CREE/1;2CWOO;2WEST-CREE/1;2CWA;2WEST-CREE/1;2CWAA;
     2WEST-CREE/1;2NASKAPI/1;2C;2SAYISI TH;2ME;2MAAI;2MI;2MII;2MO;2MOO;2Y-CREE/1;2MA;2MAA;2MWE;
     2WEST-CREE/1;2MWI;2WEST-CREE/1;2MWII;2WEST-CREE/1;2MWO;2WEST-CREE/1;2MWOO;2WEST-CREE/1;2MWA;
     2WEST-CREE/1;2MWAA;2WEST-CREE/1;2NASKAPI/1;2M;2WEST-CREE M;2MH;2ATHAPASCAN M;2SAYISI M;2NE;
     2NAAI;2NI;2NII;2NO;2NOO;2Y-CREE/1;2NA;2NAA;2NWE;2WEST-CREE/1;2NWA;2WEST-CREE/1;2NWAA;
     2WEST-CREE/1;2NASKAPI/1;2N;2CARRIER NG;2NH;2LE;2LAAI;2LI;2LII;2LO;2LOO;2Y-CREE/1;2LA;2LAA;2LWE;
     2WEST-CREE/1;2LWI;2WEST-CREE/1;2LWII;2WEST-CREE/1;2LWO;2WEST-CREE/1;2LWOO;2WEST-CREE/1;2LWA;
     2WEST-CREE/1;2LWAA;2WEST-CREE/1;2L;2WEST-CREE L;2MEDIAL L;2SE;2SAAI;2SI;2SII;2SO;2SOO;
     2Y-CREE/1;2SA;2SAA;2SWE;2WEST-CREE/1;2SWI;2WEST-CREE/1;2SWII;2WEST-CREE/1;2SWO;2WEST-CREE/1;
     2SWOO;2WEST-CREE/1"),
   (0x1500, "CANADIAN SYLLABICS SWA;2WEST-CREE/1;2SWAA;2WEST-CREE/1;2NASKAPI/1;2S;2ATHAPASCAN S;2SW;
     2BLACKFOOT S;2MOOSE-CREE SK;2NASKAPI SKW;3S-W;3SPWA;3STWA;3SKWA;3SCWA;2SHE;2SHI;2SHII;2SHO;
     2SHOO;2SHA;2SHAA;2SHWE;2WEST-CREE/1;2SHWI;2WEST-CREE/1;2SHWII;2WEST-CREE/1;2SHWO;2WEST-CREE/1;
     2SHWOO;2WEST-CREE/1;2SHWA;2WEST-CREE/1;2SHWAA;2WEST-CREE/1;2SH;2YE;2YAAI;2YI;2YII;2YO;2YOO;
     2Y-CREE/1;2YA;2YAA;2YWE;2WEST-CREE/1;2YWI;2WEST-CREE/1;2YWII;2WEST-CREE/1;2YWO;2WEST-CREE/1;
     2YWOO;2WEST-CREE/1;2YWA;2WEST-CREE/1;2YWAA;2WEST-CREE/1;2NASKAPI/1;2Y;2BIBLE-CREE Y;
     2WEST-CREE Y;2SAYISI YI;2RE;2R-CREE/1;2WEST-CREE LE;2RAAI;2RI;2RII;2RO;2ROO;2WEST-CREE LO;2RA;
     2RAA;2WEST-CREE LA;2RWAA;2WEST-CREE/1;2R;2WEST-CREE R;2MEDIAL R;2FE;2FAAI;2FI;2FII;2FO;2FOO;
     2FA;2FAA;2FWAA;2WEST-CREE/1;2F;2THE;2N-CREE/1;2THI;2N-CREE/1;2THII;2N-CREE/1;2THO;2THOO;2THA;
     2THAA;2THWAA;2WEST-CREE/1;2TH;2TTHE;2TTHI;2TTHO;2TTHA;2TTH;2TYE;2TYI;2TYO;2TYA;2NUNAVIK HE;3HI;
     3HII;3HO;3HOO;3HA;3HAA;3H;2NUNAVUT H;2HK;2QAAI;2QI;2QII;2QO;2QOO;2QA;2QAA;2Q;2TLHE;2TLHI;2TLHO;
     2TLHA;2WEST-CREE RE;3RI;3RO;3RA;2NGAAI;2NGI;2NGII;2NGO;2NGOO;2NGA;2NGAA;2NG;2NNG;2SAYISI SHE;
     3SHI;3SHO;3SHA;2WOODS-CREE THE;3THI;3THO;3THA;3TH;2LHI;2LHII;2LHO;2LHOO;2LHA;2LHAA;2LH;
     2TH-CREE THE;3THI;3THII;3THO;3THOO;3THA;3THAA;3TH;2AIVILIK B;2BLACKFOOT E;3I;3O;3A;3WE;3WI;3WO;
     3WA;3NE;3NI;3NO;3NA;3KE;3KI;3KO;3KA;2SAYISI HE;3HI;3HO;3HA;2CARRIER GHU;3GHO;3GHE;3GHEE;3GHI;
     3GHA;3RU;3RO;3RE;3REE;3RI;3RA;3WU;3WO;3WE;3WEE;3WI;3WA;3HWU;3HWO;3HWE;3HWEE;3HWI;3HWA;3THU;
     3THO;3THE;3THEE;3THI;3THA;3TTU;3TTO;3TTE;3TTEE;3TTI;3TTA;3PU;3PO;3PE;3PEE;3PI;3PA;3P;3GU;3GO;
     3GE;3GEE;3GI;3GA;3KHU;3KHO;3KHE;3KHEE;3KHI;3KHA;3KKU;3KKO;3KKE;3KKEE;3KKI"),
   (0x1600, "CANADIAN SYLLABICS CARRIER KKA;3KK;3NU;3NO;3NE;3NEE;3NI;3NA;3MU;3MO;3ME;3MEE;3MI;3MA;
     3YU;3YO;3YE;3YEE;3YI;3YA;3JU;2SAYISI/1;2CARRIER JO;3JE;3JEE;3JI;2SAYISI/1;2CARRIER JA;3JJU;
     3JJO;3JJE;3JJEE;3JJI;3JJA;3LU;3LO;3LE;3LEE;3LI;3LA;3DLU;3DLO;3DLE;3DLEE;3DLI;3DLA;3LHU;3LHO;
     3LHE;3LHEE;3LHI;3LHA;3TLHU;3TLHO;3TLHE;3TLHEE;3TLHI;3TLHA;3TLU;3TLO;3TLE;3TLEE;3TLI;3TLA;3ZU;
     3ZO;3ZE;3ZEE;3ZI;3ZA;3Z;3INITIAL Z;3DZU;3DZO;3DZE;3DZEE;3DZI;3DZA;3SU;3SO;3SE;3SEE;3SI;3SA;
     3SHU;3SHO;3SHE;3SHEE;3SHI;3SHA;3SH;3TSU;3TSO;3TSE;3TSEE;3TSI;3TSA;3CHU;3CHO;3CHE;3CHEE;3CHI;
     3CHA;3TTSU;3TTSO;3TTSE;3TTSEE;3TTSI;3TTSA;2CHI SIGN;2FULL STOP;2QAI;2NGAI;2NNGI;2NNGII;2NNGO;
     2NNGOO;2NNGA;2NNGAA;2WOODS-CREE THWEE;3THWI;3THWII;3THWO;3THWOO;3THWA;3THWAA;3FINAL TH;
     2BLACKFOOT W;OGHAM SPACE MARK;1LETTER BEITH;2LUIS;2FEARN;2SAIL;2NION;2UATH;2DAIR;2TINNE;2COLL;
     2CEIRT;2MUIN;2GORT;2NGEADAL;2STRAIF;2RUIS;2AILM;2ONN;2UR;2EADHADH;2IODHADH;2EABHADH;2OR;
     2UILLEANN;2IFIN;2EAMHANCHOLL;2PEITH;1FEATHER MARK;1REVERSED/2"),
   (0x16A0, "RUNIC LETTER FEHU FEOH FE F;2V;2URUZ UR U;2YR;2Y;2W;2THURISAZ THURS THORN;2ETH;
     2ANSUZ A;2OS O;2AC A;2AESC;2LONG-BRANCH-OSS O;2SHORT-TWIG-OSS O;2O;2OE;2ON;2RAIDO RAD REID R;
     2KAUNA;2CEN;2KAUN K;2G;2ENG;2GEBO GYFU G;2GAR;2WUNJO WYNN W;2HAGLAZ H;2HAEGL H;
     2LONG-BRANCH-HAGALL H;2SHORT-TWIG-HAGALL H;2NAUDIZ NYD NAUD N;2SHORT-TWIG-NAUD N;2DOTTED-N;
     2ISAZ IS ISS I;2E;2JERAN J;2GER;2LONG-BRANCH-AR AE;2SHORT-TWIG-AR A;2IWAZ EOH;2PERTHO PEORTH P;
     2ALGIZ EOLHX;2SOWILO S;2SIGEL LONG-BRANCH-SOL S;2SHORT-TWIG-SOL S;2C;2Z;2TIWAZ TIR TYR T;
     2SHORT-TWIG-TYR T;2D;2BERKANAN BEORC BJARKAN B;2SHORT-TWIG-BJARKAN B;2DOTTED-P;2OPEN-P;
     2EHWAZ EH E;2MANNAZ MAN M;2LONG-BRANCH-MADR M;2SHORT-TWIG-MADR M;2LAUKAZ LAGU LOGR L;2DOTTED-L;
     2INGWAZ;2ING;2DAGAZ DAEG D;2OTHALAN ETHEL O;2EAR;2IOR;2CWEORTH;2CALC;2CEALC;2STAN;
     2LONG-BRANCH-YR;2SHORT-TWIG-YR;2ICELANDIC-YR;2Q;2X;1SINGLE PUNCTUATION;1MULTIPLE/1;1CROSS/1;
     1ARLAUG SYMBOL;1TVIMADUR/1;1BELGTHOR/1;1LETTER K;2SH;2OO;2FRANKS CASKET OS;4IS;4EH;4AC;4AESC"),
   (0x1700, "TAGALOG LETTER A;2I;2U;2KA;2GA;2NGA;2TA;2DA;2NA;2PA;2BA;2MA;2YA;2RA;2LA;2WA;2SA;2HA;
     1VOWEL SIGN I;3U;1SIGN VIRAMA;2PAMUDPOD"),
   (0x171F, "TAGALOG LETTER ARCHAIC RA;HANUNOO LETTER A;2I;2U;2KA;2GA;2NGA;2TA;2DA;2NA;2PA;2BA;2MA;
     2YA;2RA;2LA;2WA;2SA;2HA;1VOWEL SIGN I;3U;1SIGN PAMUDPOD;PHILIPPINE SINGLE PUNCTUATION;
     1DOUBLE/1"),
   (0x1740, "BUHID LETTER A;2I;2U;2KA;2GA;2NGA;2TA;2DA;2NA;2PA;2BA;2MA;2YA;2RA;2LA;2WA;2SA;2HA;
     1VOWEL SIGN I;3U"),
   (0x1760, "TAGBANWA LETTER A;2I;2U;2KA;2GA;2NGA;2TA;2DA;2NA;2PA;2BA;2MA;2YA"),
   (0x176E, "TAGBANWA LETTER LA;2WA;2SA"),
   (0x1772, "TAGBANWA VOWEL SIGN I;3U"),
   (0x1780, "KHMER LETTER KA;2KHA;2KO;2KHO;2NGO;2CA;2CHA;2CO;2CHO;2NYO;2DA;2TTHA;2DO;2TTHO;2NNO;2TA;
     2THA;2TO;2THO;2NO;2BA;2PHA;2PO;2PHO;2MO;2YO;2RO;2LO;2VO;2SHA;2SSO;2SA;2HA;2LA;2QA;
     1INDEPENDENT VOWEL QAQ;3QAA;3QI;3QII;3QU;3QUK;3QUU;3QUUV;3RY;3RYY;3LY;3LYY;3QE;3QAI;
     3QOO TYPE ONE;5TWO;3QAU;1VOWEL INHERENT AQ;3AA;2SIGN/1;3I;3II;3Y;3YY;3U;3UU;3UA;3OE;3YA;3IE;3E;
     3AE;3AI;3OO;3AU;1SIGN NIKAHIT;2REAHMUK;2YUUKALEAPINTU;2MUUSIKATOAN;2TRIISAP;2BANTOC;2ROBAT;
     2TOANDAKHIAT;2KAKABAT;2AHSDA;2SAMYOK SANNYA;2VIRIAM;2COENG;2BATHAMASAT;2KHAN;2BARIYOOSAN;
     2CAMNUC PII KUUH;2LEK TOO;2BEYYAL;2PHNAEK MUAN;2KOOMUUT;1CURRENCY SYMBOL RIEL;
     1SIGN AVAKRAHASANYA;2ATTHACAN"),
   (0x17E0, "KHMER DIGIT ZERO;2ONE;2TWO;2THREE;2FOUR;2FIVE;2SIX;2SEVEN;2EIGHT;2NINE"),
   (0x17F0, "KHMER SYMBOL LEK ATTAK SON;4MUOY;4PII;4BEI;4BUON;4PRAM;4PRAM-MUOY;4PRAM-PII;4PRAM-BEI;
     4PRAM-BUON"),
   (0x1800, "MONGOLIAN BIRGA;1ELLIPSIS;1COMMA;1FULL STOP;1COLON;1FOUR DOTS;1TODO SOFT HYPHEN;
     1SIBE SYLLABLE BOUNDARY MARKER;1MANCHU COMMA;2FULL STOP;1NIRUGU;1FREE VARIATION SELECTOR ONE;
     4TWO;4THREE;1VOWEL SEPARATOR;1FREE VARIATION SELECTOR FOUR;1DIGIT ZERO;2ONE;2TWO;2THREE;2FOUR;
     2FIVE;2SIX;2SEVEN;2EIGHT;2NINE"),
   (0x1820, "MONGOLIAN LETTER A;2E;2I;2O;2U;2OE;2UE;2EE;2NA;2ANG;2BA;2PA;2QA;2GA;2MA;2LA;2SA;2SHA;
     2TA;2DA;2CHA;2JA;2YA;2RA;2WA;2FA;2KA;2KHA;2TSA;2ZA;2HAA;2ZRA;2LHA;2ZHI;2CHI;
     2TODO LONG VOWEL SIGN;3E;3I;3O;3U;3OE;3UE;3ANG;3BA;3PA;3QA;3GA;3MA;3TA;3DA;3CHA;3JA;3TSA;3YA;
     3WA;3KA;3GAA;3HAA;3JIA;3NIA;3DZA;2SIBE E;3I;3IY;3UE;3U;3ANG;3KA;3GA;3HA;3PA;3SHA;3TA;3DA;3JA;
     3FA;3GAA;3HAA;3TSA;3ZA;3RAA;3CHA;3ZHA;2MANCHU I;3KA;3RA;3FA;3ZHA;2CHA WITH TWO DOTS"),
   (0x1880, "MONGOLIAN LETTER ALI GALI ANUSVARA ONE;4VISARGA/1;4DAMARU;4UBADAMA;4INVERTED/1;4BALUDA;
     4THREE/1;4A;4I;4KA;4NGA;4CA;4TTA;4TTHA;4DDA;4NNA;4TA;4DA;4PA;4PHA;4SSA;4ZHA;4ZA;4AH;
     2TODO ALI GALI TA;5ZHA;2MANCHU ALI GALI GHA;5NGA;5CA;5JHA;5TTA;5DDHA;5TA;5DHA;5SSA;5CYA;5ZHA;
     5ZA;2ALI GALI HALF U;5YA;2MANCHU ALI GALI BHA;2ALI GALI DAGALGA;2MANCHU ALI GALI LHA"),
   (0x18B0, "CANADIAN SYLLABICS OY;2AY;2AAY;2WAY;2POY;2PAY;2PWOY;2TAY;2KAY;2KWAY;2MAY;2NOY;2NAY;
     2LAY;2SOY;2SAY;2SHOY;2SHAY;2SHWOY;2YOY;2YAY;2RAY;2NWI;2OJIBWAY/1;2NWII;2OJIBWAY/1;2NWO;
     2OJIBWAY/1;2NWOO;2OJIBWAY/1;2RWEE;2RWI;2RWII;2RWO;2RWOO;2RWA;2OJIBWAY P;3T;3K;3C;3M;+1;3S;3SH;
     2EASTERN W;2WESTERN W;2FINAL SMALL RING;3RAISED DOT;2R-CREE RWE;2WEST-CREE LOO;3LAA;2THWE;
     2THWA;2TTHWE;2TTHOO;2TTHAA;2TLHWE;2TLHOO;2SAYISI SHWE;3SHOO;3HOO;2CARRIER GWU;3DENE GEE;3GAA;
     3GWA;2SAYISI JUU;2CARRIER JWA;2BEAVER DENE L;4R;2CARRIER DENTAL S"),
   (0x1900, "LIMBU VOWEL-CARRIER LETTER;1LETTER KA;2KHA;2GA;2GHA;2NGA;2CA;2CHA;2JA;2JHA;2YAN;2TA;
     2THA;2DA;2DHA;2NA;2PA;2PHA;2BA;2BHA;2MA;2YA;2RA;2LA;2WA;2SHA;2SSA;2SA;2HA;2GYAN;2TRA"),
   (0x1920, "LIMBU VOWEL SIGN A;3I;3U;3EE;3AI;3OO;3AU;3E;3O;1SUBJOINED LETTER YA;3RA;3WA"),
   (0x1930, "LIMBU SMALL LETTER KA;3NGA;3ANUSVARA;3TA;3NA;3PA;3MA;3RA;3LA;1SIGN MUKPHRENG;
     2KEMPHRENG;2SA-I"),
   (0x1940, "LIMBU SIGN LOO"),
   (0x1944, "LIMBU EXCLAMATION MARK;1QUESTION/1;1DIGIT ZERO;2ONE;2TWO;2THREE;2FOUR;2FIVE;2SIX;
     2SEVEN;2EIGHT;2NINE;TAI LE LETTER KA;3XA;3NGA;3TSA;3SA;3YA;3TA;3THA;3LA;3PA;3PHA;3MA;3FA;3VA;
     3HA;3QA;3KHA;3TSHA;3NA;3A;3I;3EE;3EH;3U;3OO;3O;3UE;3E;3AUE;3AI"),
   (0x1970, "TAI LE LETTER TONE-2;+4"),
   (0x1980, "NEW TAI LUE LETTER HIGH QA;4LOW/1;4HIGH KA;5XA;5NGA;4LOW KA;5XA;5NGA;4HIGH TSA;5SA;5YA;
     4LOW TSA;5SA;5YA;4HIGH TA;5THA;5NA;4LOW TA;5THA;5NA;4HIGH PA;5PHA;5MA;4LOW PA;5PHA;5MA;
     4HIGH FA;5VA;5LA;4LOW FA;5VA;5LA;4HIGH HA;5DA;5BA;4LOW HA;5DA;5BA;4HIGH KVA;5XVA;4LOW KVA;5XVA;
     4HIGH SUA;4LOW/1"),
   (0x19B0, "NEW TAI LUE VOWEL SIGN VOWEL SHORTENER;5AA;5II;5U;5UU;5E;5AE;5O;5OA;5UE;5AY;5AAY;5UY;
     5OY;5OAY;5UEY;5IY;3LETTER FINAL V;5NG;5N;5M;5K;5D;5B;3TONE MARK-1;+1"),
   (0x19D0, "NEW TAI LUE DIGIT ZERO;4ONE;4TWO;4THREE;4FOUR;4FIVE;4SIX;4SEVEN;4EIGHT;4NINE;
     3THAM DIGIT ONE"),
   (0x19DE, "NEW TAI LUE SIGN LAE;4LAEV;KHMER SYMBOL PATHAMASAT;2MUOY KOET;2PII/1;2BEI/1;2BUON/1;
     2PRAM/1;2PRAM-MUOY/1;2PRAM-PII/1;2PRAM-BEI/1;2PRAM-BUON/1;2DAP/1;2DAP-MUOY/1;2DAP-PII/1;
     2DAP-BEI/1;2DAP-BUON/1;2DAP-PRAM/1;2TUTEYASAT;2MUOY ROC;2PII/1;2BEI/1;2BUON/1;2PRAM/1;
     2PRAM-MUOY/1;2PRAM-PII/1;2PRAM-BEI/1;2PRAM-BUON/1;2DAP/1;2DAP-MUOY/1;2DAP-PII/1;2DAP-BEI/1;
     2DAP-BUON/1;2DAP-PRAM/1"),
   (0x1A00, "BUGINESE LETTER KA;2GA;2NGA;2NGKA;2PA;2BA;2MA;2MPA;2TA;2DA;2NA;2NRA;2CA;2JA;2NYA;2NYCA;
     2YA;2RA;2LA;2VA;2SA;2A;2HA;1VOWEL SIGN I;3U;3E;3O;3AE"),
   (0x1A1E, "BUGINESE PALLAWA;1END OF SECTION;TAI THAM LETTER HIGH KA;4KHA;4KXA;3LOW KA;4KXA;4KHA;
     3NGA;3HIGH CA;4CHA;3LOW CA;4SA;4CHA;3NYA;3RATA;3HIGH RATHA;3DA;3LOW RATHA;3RANA;3HIGH TA;4THA;
     3LOW TA;4THA;3NA;3BA;3HIGH PA;4PHA;4FA;3LOW PA;4FA;4PHA;3MA;3LOW YA;3HIGH/1;3RA;3RUE;3LA;3LUE;
     3WA;3HIGH SHA;4SSA;4SA;4HA;3LLA;3A;3LOW HA;3I;3II;3U;3UU;3EE;3OO;3LAE;3GREAT SA;
     2CONSONANT SIGN MEDIAL RA;5LA;4LA TANG LAI;2SIGN MAI KANG/1;2CONSONANT SIGN FINAL NGA;4LOW PA;
     4HIGH RATHA OR/2;4MA;4BA;4SA"),
   (0x1A60, "TAI THAM SIGN SAKOT;2VOWEL SIGN A;4MAI SAT;4AA;4TALL/1;4I;4II;4UE;4UUE;4U;4UU;4O;
     4OA BELOW;4OY;4E;4AE;4OO;4AI;4THAM/1;4OA ABOVE;2SIGN MAI KANG;3TONE-1;+1;3KHUEN TONE-3;+2;
     3RA HAAM;3MAI SAM;3KHUEN-LUE KARAN"),
   (0x1A7F, "TAI THAM COMBINING CRYPTOGRAMMIC DOT;2HORA DIGIT ZERO;4ONE;4TWO;4THREE;4FOUR;4FIVE;
     4SIX;4SEVEN;4EIGHT;4NINE"),
   (0x1A90, "TAI THAM THAM DIGIT ZERO;4ONE;4TWO;4THREE;4FOUR;4FIVE;4SIX;4SEVEN;4EIGHT;4NINE"),
   (0x1AA0, "TAI THAM SIGN WIANG;3WIANGWAAK;3SAWAN;3KEOW;3HOY;3DOKMAI;3REVERSED ROTATED RANA;
     3MAI YAMOK;3KAAN;3KAANKUU;3SATKAAN;3SATKAANKUU;3HANG;3CAANG"),
   (0x1AB0, "COMBINING DOUBLED CIRCUMFLEX ACCENT;1DIAERESIS-RING;1INFINITY;1DOWNWARDS ARROW;
     1TRIPLE DOT;1X-X BELOW;1WIGGLY LINE/1;1OPEN MARK/1;1DOUBLE/3;1LIGHT CENTRALIZATION STROKE/1;
     1STRONG/3;1PARENTHESES ABOVE;1DOUBLE/2;1PARENTHESES BELOW;2OVERLAY;1LATIN SMALL LETTER W BELOW;
     4TURNED/2;1LEFT PARENTHESIS ABOVE LEFT;1RIGHT PARENTHESIS ABOVE RIGHT;
     1LEFT PARENTHESIS BELOW LEFT;1RIGHT PARENTHESIS BELOW RIGHT;1SQUARE BRACKETS ABOVE;
     1NUMBER SIGN/1;1INVERTED DOUBLE ARCH/1;1PLUS SIGN/1;1DOUBLE/3;4BELOW;1TRIPLE ACUTE ACCENT;
     1LATIN SMALL LETTER INSULAR G;5R;5T"),
   (0x1B00, "BALINESE SIGN ULU RICEM;3CANDRA;2CECEK;2SURANG;2BISAH;1LETTER AKARA;3TEDUNG;2IKARA;
     3TEDUNG;2UKARA;3TEDUNG;2RA REPA;4TEDUNG;2LA LENGA;4TEDUNG;2EKARA;2AIKARA;2OKARA;3TEDUNG;2KA;
     3MAHAPRANA;2GA;3GORA;2NGA;2CA;3LACA;2JA;3JERA;2NYA;2TA LATIK;3MURDA MAHAPRANA;
     2DA MURDA ALPAPRANA;4MAHAPRANA;2NA RAMBAT;2TA;3TAWA;2DA;3MADU;2NA;2PA;3KAPAL;2BA;3KEMBANG;2MA;
     2YA;2RA;2LA;2WA;2SA SAGA;3SAPA;2SA;2HA;1SIGN REREKAN;1VOWEL SIGN TEDUNG;3ULU;4SARI;3SUKU;4ILUT;
     3RA REPA;5TEDUNG;3LA LENGA;5TEDUNG;3TALING;4REPA;4TEDUNG;4REPA/1;3PEPET;4TEDUNG;1ADEG ADEG;
     1LETTER KAF SASAK;2KHOT/1;2TZIR/1;2EF/1;2VE/1;2ZAL/1;2ASYURA/1;2ARCHAIC JNYA"),
   (0x1B50, "BALINESE DIGIT ZERO;2ONE;2TWO;2THREE;2FOUR;2FIVE;2SIX;2SEVEN;2EIGHT;2NINE;1PANTI;
     1PAMADA;1WINDU;1CARIK PAMUNGKAH;2SIKI;2PAREREN;1PAMENENG;1MUSICAL SYMBOL DONG;3DENG;3DUNG;
     3DANG;4SURANG;3DING;3DAENG;3DEUNG;3DAING;3DANG GEDE;3COMBINING TEGEH;4ENDEP;4KEMPUL;4KEMPLI;
     4JEGOGAN;4KEMPUL WITH/1;4KEMPLI/2;4BENDE;4GONG;3RIGHT-HAND OPEN DUG;5DAG;4CLOSED TUK;5TAK;
     3LEFT-HAND OPEN PANG;5PUNG;4CLOSED PLAK;5PLUK;4OPEN PING;1PANTI LANTANG;1PAMADA/1"),
   (0x1B80, "SUNDANESE SIGN PANYECEK;2PANGLAYAR;2PANGWISAD;1LETTER A;2I;2U;2AE;2O;2E;2EU;2KA;2QA;
     2GA;2NGA;2CA;2JA;2ZA;2NYA;2TA;2DA;2NA;2PA;2FA;2VA;2BA;2MA;2YA;2RA;2LA;2WA;2SA;2XA;2HA;
     1CONSONANT SIGN PAMINGKAL;3PANYAKRA;3PANYIKU;1VOWEL SIGN PANGHULU;3PANYUKU;3PANAELAENG;
     3PANOLONG;3PAMEPET;3PANEULEUNG;1SIGN PAMAAEH;2VIRAMA;1CONSONANT SIGN PASANGAN MA;4WA;
     1LETTER KHA;2SYA;1DIGIT ZERO;2ONE;2TWO;2THREE;2FOUR;2FIVE;2SIX;2SEVEN;2EIGHT;2NINE;1AVAGRAHA;
     1LETTER REU;2LEU;2BHA;2FINAL K;3M;BATAK LETTER A;2SIMALUNGUN A;2HA;2SIMALUNGUN/1;2MANDAILING/1;
     2BA;2KARO/1;2PA;2SIMALUNGUN/1;2NA;2MANDAILING/1;2WA;2SIMALUNGUN/1;2PAKPAK/1;2GA;2SIMALUNGUN/1;
     2JA;2DA;2RA;2SIMALUNGUN/1;2MA;2SIMALUNGUN/1;2SOUTHERN TA;2NORTHERN/1;2SA;2SIMALUNGUN/1;
     2MANDAILING/1;2YA;2SIMALUNGUN/1;2NGA;2LA;2SIMALUNGUN/1;2NYA;2CA;2NDA;2MBA;2I;2U;1SIGN TOMPI;
     1VOWEL SIGN E;3PAKPAK E;3EE;3I;3KARO I;3O;3KARO O;3U;4FOR SIMALUNGUN SA;1CONSONANT SIGN NG;3H;
     1PANGOLAT;1PANONGONAN"),
   (0x1BFC, "BATAK SYMBOL BINDU NA METEK;3PINARBORAS;3JUDUL;3PANGOLAT"),
   (0x1C00, "LEPCHA LETTER KA;2KLA;2KHA;2GA;2GLA;2NGA;2CA;2CHA;2JA;2NYA;2TA;2THA;2DA;2NA;2PA;2PLA;
     2PHA;2FA;2FLA;2BA;2BLA;2MA;2MLA;2TSA;2TSHA;2DZA;2YA;2RA;2LA;2HA;2HLA;2VA;2SA;2SHA;2WA;2A;
     1SUBJOINED LETTER YA;3RA;1VOWEL SIGN AA;3I;3O;3OO;3U;3UU;3E;1CONSONANT SIGN K;3M;3L;3N;3P;3R;
     3T;3NYIN-DO;3KANG;1SIGN RAN;2NUKTA"),
   (0x1C3B, "LEPCHA PUNCTUATION TA-ROL;2NYET THYOOM/1;2CER-WA;2TSHOOK/1;2TSHOOK;1DIGIT ZERO;2ONE;
     2TWO;2THREE;2FOUR;2FIVE;2SIX;2SEVEN;2EIGHT;2NINE"),
   (0x1C4D, "LEPCHA LETTER TTA;2TTHA;2DDA;OL CHIKI DIGIT ZERO;3ONE;3TWO;3THREE;3FOUR;3FIVE;3SIX;
     3SEVEN;3EIGHT;3NINE;2LETTER LA;3AT;3AG;3ANG;3AL;3LAA;3AAK;3AAJ;3AAM;3AAW;3LI;3IS;3IH;3INY;3IR;
     3LU;3UC;+1;3UNN;3UY;3LE;3EP;3EDD;3EN;3ERR;3LO;3OTT;3OB;3OV;3OH;2MU TTUDDAG;2GAAHLAA TTUDDAAG;
     2MU-GAAHLAA/1;2RELAA;2PHAARKAA;2AHAD;2PUNCTUATION MUCAAD;3DOUBLE/1;
     CYRILLIC SMALL LETTER ROUNDED VE;3LONG-LEGGED DE;3NARROW O;3WIDE ES;3TALL TE;3THREE-LEGGED/1;
     3TALL HARD SIGN;4YAT;3UNBLENDED UK"),
   (0x1C90, "GEORGIAN MTAVRULI CAPITAL LETTER AN;4BAN;4GAN;4DON;4EN;4VIN;4ZEN;4TAN;4IN;4KAN;4LAS;
     4MAN;4NAR;4ON;4PAR;4ZHAR;4RAE;4SAN;4TAR;4UN;4PHAR;4KHAR;4GHAN;4QAR;4SHIN;4CHIN;4CAN;4JIL;4CIL;
     4CHAR;4XAN;4JHAN;4HAE;4HE;4HIE;4WE;4HAR;4HOE;4FI;4YN;4ELIFI;4TURNED GAN;4AIN"),
   (0x1CBD, "GEORGIAN MTAVRULI CAPITAL LETTER AEN;4HARD SIGN;4LABIAL/1;
     SUNDANESE PUNCTUATION BINDU SURYA;3PANGLONG;3PURNAMA;3CAKRA;3LEU SATANGA;3KA/1;3DA/1;3BA/1"),
   (0x1CD0, "VEDIC TONE KARSHANA;2SHARA;2PRENKHA;1SIGN NIHSHVASA;2YAJURVEDIC MIDLINE SVARITA;
     1TONE YAJURVEDIC AGGRAVATED INDEPENDENT/1;2YAJURVEDIC/2;3KATHAKA/2;2CANDRA BELOW;
     2YAJURVEDIC KATHAKA INDEPENDENT SVARITA SCHROEDER;2DOUBLE SVARITA;2TRIPLE/1;2KATHAKA ANUDATTA;
     2DOT BELOW;2TWO DOTS/1;2THREE/2;2RIGVEDIC KASHMIRI INDEPENDENT SVARITA;2ATHARVAVEDIC/2;
     1SIGN VISARGA/1;3UDATTA;2REVERSED/2;2VISARGA ANUDATTA;2REVERSED/2;2VISARGA UDATTA WITH TAIL;
     3ANUDATTA/2;2ANUSVARA ANTARGOMUKHA;3BAHIRGOMUKHA;3VAMAGOMUKHA;4WITH TAIL;2TIRYAK;
     2HEXIFORM LONG ANUSVARA;1SIGN/2;2RTHANG/2;2ANUSVARA UBHAYATO MUKHA;2ARDHAVISARGA;2ROTATED/1;
     1TONE CANDRA ABOVE;1SIGN JIHVAMULIYA;2UPADHMANIYA;2ATIKRAMA;1TONE RING ABOVE;2DOUBLE/2;
     1SIGN DOUBLE ANUSVARA ANTARGOMUKHA"),
   (0x1D00, "LATIN LETTER SMALL CAPITAL A;4AE;1SMALL LETTER TURNED/1;1LETTER SMALL CAPITAL BARRED B;
     4C;+1;4ETH;4E;1SMALL LETTER TURNED OPEN E;4I;1LETTER SMALL CAPITAL J;+1;4L WITH STROKE;4M;
     4REVERSED N;4O;4OPEN O;1SMALL LETTER SIDEWAYS O;4OPEN O;4O WITH STROKE;3TURNED OE;
     1LETTER SMALL CAPITAL OU;1SMALL LETTER TOP HALF O;3BOTTOM/2;1LETTER SMALL CAPITAL P;
     4REVERSED R;4TURNED R;4T;+1;1SMALL LETTER SIDEWAYS U;4DIAERESIZED U;4TURNED M;
     1LETTER SMALL CAPITAL V;+1;4Z;4EZH;2VOICED LARYNGEAL SPIRANT;2AIN;
     GREEK LETTER SMALL CAPITAL GAMMA;4LAMDA;4PI;4RHO;4PSI;CYRILLIC LETTER SMALL CAPITAL EL;
     MODIFIER LETTER CAPITAL A;3AE;3B;3BARRED B;3D;+1;3REVERSED E;3G;+7;3REVERSED N;3O;3OU;3P;3R;3T;
     +1;3W;2SMALL A;3TURNED A;3ALPHA;3TURNED AE;3B;3D;+1;3SCHWA;3OPEN E;3TURNED/2;3G;3TURNED I;3K;
     3M;3ENG;3O;3OPEN O;3TOP HALF O;3BOTTOM/2;3P;3T;+1;3SIDEWAYS U;3TURNED M;3V;3AIN;3BETA;
     3GREEK GAMMA;3DELTA;3GREEK PHI;3CHI;LATIN SUBSCRIPT SMALL LETTER I;4R;4U;+1;
     GREEK SUBSCRIPT SMALL LETTER BETA;4GAMMA;4RHO;4PHI;4CHI;LATIN SMALL LETTER UE;
     3B WITH MIDDLE TILDE;3D/3;3F/3;3M/3;3N/3;3P/3;3R/3;5FISHHOOK AND/2;3S WITH/2;3T/3;3Z/3;
     3TURNED G;MODIFIER LETTER CYRILLIC EN;LATIN SMALL LETTER INSULAR G;3TH WITH STRIKETHROUGH;
     2CAPITAL LETTER I WITH STROKE;2LETTER IOTA/2;3P/2;2CAPITAL LETTER U/2;2LETTER UPSILON/2;
     3B WITH PALATAL HOOK;3D/3;3F/3;3G/3;3K/3;3L/3;3M/3;3N/3;3P/3;3R/3;3S/3;3ESH/3;3V/3;3X/3;3Z/3;
     3A WITH RETROFLEX/1;3ALPHA/3;3D WITH HOOK AND TAIL;3E WITH RETROFLEX HOOK;3OPEN/4;3REVERSED/5;
     3SCHWA/3;3I/3;3OPEN O/3;3ESH/3;3U/3;3EZH/3;MODIFIER LETTER SMALL TURNED ALPHA;3C;4WITH CURL;
     3ETH;3REVERSED OPEN E;3F;3DOTLESS J WITH STROKE;3SCRIPT G;3TURNED H;3I WITH STROKE;3IOTA;
     3CAPITAL I;5WITH STROKE;3J WITH CROSSED-TAIL;3L WITH RETROFLEX HOOK;5PALATAL/1;3CAPITAL L;
     3M WITH HOOK;3TURNED M WITH LONG LEG;3N WITH LEFT HOOK;5RETROFLEX/1;3CAPITAL N;3BARRED O;3PHI;
     3S WITH HOOK;3ESH;3T WITH PALATAL HOOK;3U BAR;3UPSILON;3CAPITAL U;3V WITH HOOK;3TURNED V;3Z;
     4WITH RETROFLEX HOOK;5CURL;3EZH;3THETA;COMBINING DOTTED GRAVE ACCENT;2ACUTE/1;1SNAKE BELOW;
     1SUSPENSION MARK;1MACRON-ACUTE;1GRAVE-MACRON;1MACRON-GRAVE;1ACUTE-MACRON;1GRAVE-ACUTE-GRAVE;
     1ACUTE-GRAVE-ACUTE;1LATIN SMALL LETTER R BELOW;1BREVE-MACRON;1MACRON-BREVE;
     1DOUBLE CIRCUMFLEX ABOVE;1OGONEK/1;1ZIGZAG BELOW;1IS/1;1UR ABOVE;1US/1;
     1LATIN SMALL LETTER FLATTENED OPEN A/1;4AE;4AO;4AV;4C CEDILLA;4INSULAR D;4ETH;4G;
     2LETTER SMALL CAPITAL G;2SMALL LETTER K;+1;2LETTER SMALL CAPITAL L;+1;2SMALL LETTER N;
     2LETTER SMALL CAPITAL N;5R;2SMALL LETTER R ROTUNDA;4S;4LONG S;4Z;4ALPHA;4B;4BETA;4SCHWA;4F;
     4L WITH DOUBLE MIDDLE TILDE;4O WITH LIGHT CENTRALIZATION STROKE;4P;4ESH;
     4U WITH LIGHT CENTRALIZATION STROKE;4W;4A WITH DIAERESIS;4O/2;4U/2;1UP TACK ABOVE;
     1KAVYKA ABOVE RIGHT;3LEFT;1DOT/2;1WIDE INVERTED BRIDGE BELOW;1DOT BELOW LEFT;1DELETION MARK;
     1DOUBLE INVERTED BREVE BELOW;1ALMOST EQUAL TO/1;1LEFT ARROWHEAD ABOVE;
     1RIGHT ARROWHEAD AND DOWN ARROWHEAD BELOW"),
   (0x1E00, "LATIN CAPITAL LETTER A WITH RING BELOW;1SMALL/5;1CAPITAL LETTER B WITH DOT ABOVE;
     1SMALL/5;1CAPITAL LETTER B WITH DOT BELOW;1SMALL/5;1CAPITAL LETTER B WITH LINE/1;1SMALL/5;
     1CAPITAL LETTER C WITH CEDILLA AND ACUTE;1SMALL/6;1CAPITAL LETTER D WITH DOT ABOVE;1SMALL/5;
     1CAPITAL LETTER D WITH DOT BELOW;1SMALL/5;1CAPITAL LETTER D WITH LINE/1;1SMALL/5;
     1CAPITAL LETTER D WITH CEDILLA;1SMALL/4;1CAPITAL LETTER D WITH CIRCUMFLEX BELOW;1SMALL/5;
     1CAPITAL LETTER E WITH MACRON AND GRAVE;1SMALL/6;1CAPITAL LETTER E WITH MACRON AND ACUTE;
     1SMALL/6;1CAPITAL LETTER E WITH CIRCUMFLEX BELOW;1SMALL/5;1CAPITAL LETTER E WITH TILDE/1;
     1SMALL/5;1CAPITAL LETTER E WITH CEDILLA AND BREVE;1SMALL/6;1CAPITAL LETTER F WITH DOT ABOVE;
     1SMALL/5;1CAPITAL LETTER G WITH MACRON;1SMALL/4;1CAPITAL LETTER H WITH DOT ABOVE;1SMALL/5;
     1CAPITAL LETTER H WITH DOT BELOW;1SMALL/5;1CAPITAL LETTER H WITH DIAERESIS;1SMALL/4;
     1CAPITAL LETTER H WITH CEDILLA;1SMALL/4;1CAPITAL LETTER H WITH BREVE BELOW;1SMALL/5;
     1CAPITAL LETTER I WITH TILDE/1;1SMALL/5;1CAPITAL LETTER I WITH DIAERESIS AND ACUTE;1SMALL/6;
     1CAPITAL LETTER K WITH/1;1SMALL/4;1CAPITAL LETTER K WITH DOT BELOW;1SMALL/5;
     1CAPITAL LETTER K WITH LINE/1;1SMALL/5;1CAPITAL LETTER L WITH DOT/1;1SMALL/5;
     1CAPITAL LETTER L WITH DOT BELOW AND MACRON;1SMALL/7;1CAPITAL LETTER L WITH LINE BELOW;
     1SMALL/5;1CAPITAL LETTER L WITH CIRCUMFLEX/1;1SMALL/5;1CAPITAL LETTER M WITH ACUTE;1SMALL/4;
     1CAPITAL LETTER M WITH DOT ABOVE;1SMALL/5;1CAPITAL LETTER M WITH DOT BELOW;1SMALL/5;
     1CAPITAL LETTER N WITH DOT ABOVE;1SMALL/5;1CAPITAL LETTER N WITH DOT BELOW;1SMALL/5;
     1CAPITAL LETTER N WITH LINE/1;1SMALL/5;1CAPITAL LETTER N WITH CIRCUMFLEX/1;1SMALL/5;
     1CAPITAL LETTER O WITH TILDE AND ACUTE;1SMALL/6;1CAPITAL LETTER O WITH TILDE AND DIAERESIS;
     1SMALL/6;1CAPITAL LETTER O WITH MACRON AND GRAVE;1SMALL/6;
     1CAPITAL LETTER O WITH MACRON AND ACUTE;1SMALL/6;1CAPITAL LETTER P WITH/1;1SMALL/4;
     1CAPITAL LETTER P WITH DOT ABOVE;1SMALL/5;1CAPITAL LETTER R/3;1SMALL/5;
     1CAPITAL LETTER R WITH DOT BELOW;1SMALL/5;1CAPITAL LETTER R WITH DOT BELOW AND MACRON;1SMALL/7;
     1CAPITAL LETTER R WITH LINE BELOW;1SMALL/5;1CAPITAL LETTER S WITH DOT ABOVE;1SMALL/5;
     1CAPITAL LETTER S WITH DOT BELOW;1SMALL/5;1CAPITAL LETTER S WITH ACUTE AND DOT ABOVE;1SMALL/7;
     1CAPITAL LETTER S WITH CARON/3;1SMALL/7;1CAPITAL LETTER S WITH DOT BELOW/3;1SMALL/8;
     1CAPITAL LETTER T WITH/2;1SMALL/5;1CAPITAL LETTER T WITH DOT BELOW;1SMALL/5;
     1CAPITAL LETTER T WITH LINE/1;1SMALL/5;1CAPITAL LETTER T WITH CIRCUMFLEX/1;1SMALL/5;
     1CAPITAL LETTER U WITH DIAERESIS/1;1SMALL/5;1CAPITAL LETTER U WITH TILDE/1;1SMALL/5;
     1CAPITAL LETTER U WITH CIRCUMFLEX/1;1SMALL/5;1CAPITAL LETTER U WITH TILDE AND ACUTE;1SMALL/6;
     1CAPITAL LETTER U WITH MACRON AND DIAERESIS;1SMALL/6;1CAPITAL LETTER V WITH TILDE;1SMALL/4;
     1CAPITAL LETTER V WITH DOT BELOW;1SMALL/5;1CAPITAL LETTER W WITH GRAVE;1SMALL/4;
     1CAPITAL LETTER W WITH ACUTE;1SMALL/4;1CAPITAL LETTER W WITH DIAERESIS;1SMALL/4;
     1CAPITAL LETTER W WITH DOT ABOVE;1SMALL/5;1CAPITAL LETTER W WITH DOT BELOW;1SMALL/5;
     1CAPITAL LETTER X WITH DOT ABOVE;1SMALL/5;1CAPITAL LETTER X WITH DIAERESIS;1SMALL/4;
     1CAPITAL LETTER Y WITH DOT ABOVE;1SMALL/5;1CAPITAL LETTER Z WITH CIRCUMFLEX;1SMALL/4;
     1CAPITAL LETTER Z WITH DOT BELOW;1SMALL/5;1CAPITAL LETTER Z WITH LINE/1;1SMALL/5;3H/3;
     3T WITH DIAERESIS;3W WITH RING ABOVE;3Y/3;3A WITH RIGHT HALF RING;3LONG S WITH DOT ABOVE;
     6DIAGONAL STROKE;6HIGH/1;1CAPITAL LETTER SHARP S;1SMALL LETTER DELTA;
     1CAPITAL LETTER A WITH DOT BELOW;1SMALL/5;1CAPITAL LETTER A WITH HOOK ABOVE;1SMALL/5;
     1CAPITAL LETTER A WITH CIRCUMFLEX AND ACUTE;1SMALL/6;
     1CAPITAL LETTER A WITH CIRCUMFLEX AND GRAVE;1SMALL/6;
     1CAPITAL LETTER A WITH CIRCUMFLEX AND HOOK ABOVE;1SMALL/7;
     1CAPITAL LETTER A WITH CIRCUMFLEX AND TILDE;1SMALL/6;
     1CAPITAL LETTER A WITH CIRCUMFLEX AND DOT BELOW;1SMALL/7;
     1CAPITAL LETTER A WITH BREVE AND ACUTE;1SMALL/6;1CAPITAL LETTER A WITH BREVE AND GRAVE;
     1SMALL/6;1CAPITAL LETTER A WITH BREVE AND HOOK ABOVE;1SMALL/7;
     1CAPITAL LETTER A WITH BREVE AND TILDE;1SMALL/6;1CAPITAL LETTER A WITH BREVE AND DOT BELOW;
     1SMALL/7;1CAPITAL LETTER E WITH/2;1SMALL/5;1CAPITAL LETTER E WITH HOOK ABOVE;1SMALL/5;
     1CAPITAL LETTER E WITH TILDE;1SMALL/4;1CAPITAL LETTER E WITH CIRCUMFLEX AND ACUTE;1SMALL/6;
     1CAPITAL LETTER E WITH CIRCUMFLEX AND GRAVE;1SMALL/6;
     1CAPITAL LETTER E WITH CIRCUMFLEX AND HOOK ABOVE;1SMALL/7;
     1CAPITAL LETTER E WITH CIRCUMFLEX AND TILDE;1SMALL/6;
     1CAPITAL LETTER E WITH CIRCUMFLEX AND DOT BELOW;1SMALL/7;1CAPITAL LETTER I WITH HOOK ABOVE;
     1SMALL/5;1CAPITAL LETTER I WITH DOT BELOW;1SMALL/5;1CAPITAL LETTER O/3;1SMALL/5;
     1CAPITAL LETTER O WITH HOOK ABOVE;1SMALL/5;1CAPITAL LETTER O WITH CIRCUMFLEX AND ACUTE;
     1SMALL/6;1CAPITAL LETTER O WITH CIRCUMFLEX AND GRAVE;1SMALL/6;
     1CAPITAL LETTER O WITH CIRCUMFLEX AND HOOK ABOVE;1SMALL/7;
     1CAPITAL LETTER O WITH CIRCUMFLEX AND TILDE;1SMALL/6;
     1CAPITAL LETTER O WITH CIRCUMFLEX AND DOT BELOW;1SMALL/7;1CAPITAL LETTER O WITH HORN AND ACUTE;
     1SMALL/6;1CAPITAL LETTER O WITH HORN AND GRAVE;1SMALL/6;
     1CAPITAL LETTER O WITH HORN AND HOOK ABOVE;1SMALL/7;1CAPITAL LETTER O WITH HORN AND TILDE;
     1SMALL/6;1CAPITAL LETTER O WITH HORN AND DOT BELOW;1SMALL/7;1CAPITAL LETTER U WITH/2;1SMALL/5;
     1CAPITAL LETTER U WITH HOOK ABOVE;1SMALL/5;1CAPITAL LETTER U WITH HORN AND ACUTE;1SMALL/6;
     1CAPITAL LETTER U WITH HORN AND GRAVE;1SMALL/6;1CAPITAL LETTER U WITH HORN AND HOOK ABOVE;
     1SMALL/7;1CAPITAL LETTER U WITH HORN AND TILDE;1SMALL/6;
     1CAPITAL LETTER U WITH HORN AND DOT BELOW;1SMALL/7;1CAPITAL LETTER Y WITH GRAVE;1SMALL/4;
     1CAPITAL LETTER Y WITH DOT BELOW;1SMALL/5;1CAPITAL LETTER Y WITH HOOK ABOVE;1SMALL/5;
     1CAPITAL LETTER Y WITH TILDE;1SMALL/4;1CAPITAL LETTER MIDDLE-WELSH LL;1SMALL/3;
     1CAPITAL LETTER MIDDLE-WELSH V;1SMALL/3;1CAPITAL LETTER Y WITH LOOP;1SMALL/4"),
   (0x1F00, "GREEK SMALL LETTER ALPHA WITH PSILI;5DASIA;5PSILI AND VARIA;5DASIA/2;5PSILI AND OXIA;
     5DASIA/2;5PSILI AND PERISPOMENI;5DASIA/2;1CAPITAL LETTER ALPHA WITH PSILI;5DASIA;
     5PSILI AND VARIA;5DASIA/2;5PSILI AND OXIA;5DASIA/2;5PSILI AND PERISPOMENI;5DASIA/2;
     1SMALL LETTER EPSILON WITH PSILI;5DASIA;5PSILI AND VARIA;5DASIA/2;5PSILI AND OXIA;5DASIA/2"),
   (0x1F18, "GREEK CAPITAL LETTER EPSILON WITH PSILI;5DASIA;5PSILI AND VARIA;5DASIA/2;
     5PSILI AND OXIA;5DASIA/2"),
   (0x1F20, "GREEK SMALL LETTER ETA WITH PSILI;5DASIA;5PSILI AND VARIA;5DASIA/2;5PSILI AND OXIA;
     5DASIA/2;5PSILI AND PERISPOMENI;5DASIA/2;1CAPITAL LETTER ETA WITH PSILI;5DASIA;
     5PSILI AND VARIA;5DASIA/2;5PSILI AND OXIA;5DASIA/2;5PSILI AND PERISPOMENI;5DASIA/2;
     1SMALL LETTER IOTA WITH PSILI;5DASIA;5PSILI AND VARIA;5DASIA/2;5PSILI AND OXIA;5DASIA/2;
     5PSILI AND PERISPOMENI;5DASIA/2;1CAPITAL LETTER IOTA WITH PSILI;5DASIA;5PSILI AND VARIA;
     5DASIA/2;5PSILI AND OXIA;5DASIA/2;5PSILI AND PERISPOMENI;5DASIA/2;
     1SMALL LETTER OMICRON WITH PSILI;5DASIA;5PSILI AND VARIA;5DASIA/2;5PSILI AND OXIA;5DASIA/2"),
   (0x1F48, "GREEK CAPITAL LETTER OMICRON WITH PSILI;5DASIA;5PSILI AND VARIA;5DASIA/2;
     5PSILI AND OXIA;5DASIA/2"),
   (0x1F50, "GREEK SMALL LETTER UPSILON WITH PSILI;5DASIA;5PSILI AND VARIA;5DASIA/2;5PSILI AND OXIA;
     5DASIA/2;5PSILI AND PERISPOMENI;5DASIA/2"),
   (0x1F59, "GREEK CAPITAL LETTER UPSILON WITH DASIA"),
   (0x1F5B, "GREEK CAPITAL LETTER UPSILON WITH DASIA AND VARIA"),
   (0x1F5D, "GREEK CAPITAL LETTER UPSILON WITH DASIA AND OXIA"),
   (0x1F5F, "GREEK CAPITAL LETTER UPSILON WITH DASIA AND PERISPOMENI;1SMALL LETTER OMEGA WITH PSILI;
     5DASIA;5PSILI AND VARIA;5DASIA/2;5PSILI AND OXIA;5DASIA/2;5PSILI AND PERISPOMENI;5DASIA/2;
     1CAPITAL LETTER OMEGA WITH PSILI;5DASIA;5PSILI AND VARIA;5DASIA/2;5PSILI AND OXIA;5DASIA/2;
     5PSILI AND PERISPOMENI;5DASIA/2;1SMALL LETTER ALPHA WITH VARIA;5OXIA;3EPSILON WITH VARIA;5OXIA;
     3ETA WITH VARIA;5OXIA;3IOTA WITH VARIA;5OXIA;3OMICRON WITH VARIA;5OXIA;3UPSILON WITH VARIA;
     5OXIA;3OMEGA WITH VARIA;5OXIA"),
   (0x1F80, "GREEK SMALL LETTER ALPHA WITH PSILI AND YPOGEGRAMMENI;5DASIA/2;5PSILI AND VARIA/2;
     5DASIA/4;5PSILI AND OXIA/2;5DASIA/4;5PSILI AND PERISPOMENI/2;5DASIA/4;
     1CAPITAL LETTER ALPHA WITH PSILI AND PROSGEGRAMMENI;5DASIA/2;5PSILI AND VARIA/2;5DASIA/4;
     5PSILI AND OXIA/2;5DASIA/4;5PSILI AND PERISPOMENI/2;5DASIA/4;
     1SMALL LETTER ETA WITH PSILI AND YPOGEGRAMMENI;5DASIA/2;5PSILI AND VARIA/2;5DASIA/4;
     5PSILI AND OXIA/2;5DASIA/4;5PSILI AND PERISPOMENI/2;5DASIA/4;
     1CAPITAL LETTER ETA WITH PSILI AND PROSGEGRAMMENI;5DASIA/2;5PSILI AND VARIA/2;5DASIA/4;
     5PSILI AND OXIA/2;5DASIA/4;5PSILI AND PERISPOMENI/2;5DASIA/4;
     1SMALL LETTER OMEGA WITH PSILI AND YPOGEGRAMMENI;5DASIA/2;5PSILI AND VARIA/2;5DASIA/4;
     5PSILI AND OXIA/2;5DASIA/4;5PSILI AND PERISPOMENI/2;5DASIA/4;
     1CAPITAL LETTER OMEGA WITH PSILI AND PROSGEGRAMMENI;5DASIA/2;5PSILI AND VARIA/2;5DASIA/4;
     5PSILI AND OXIA/2;5DASIA/4;5PSILI AND PERISPOMENI/2;5DASIA/4;1SMALL LETTER ALPHA WITH VRACHY;
     5MACRON;5VARIA AND YPOGEGRAMMENI;4WITH/1;5OXIA AND/1"),
   (0x1FB6, "GREEK SMALL LETTER ALPHA WITH PERISPOMENI;6AND YPOGEGRAMMENI;
     1CAPITAL LETTER ALPHA WITH VRACHY;5MACRON;5VARIA;5OXIA;5PROSGEGRAMMENI;1KORONIS;
     1PROSGEGRAMMENI;1PSILI;1PERISPOMENI;1DIALYTIKA AND/1;
     1SMALL LETTER ETA WITH VARIA AND YPOGEGRAMMENI;4WITH/1;5OXIA AND/1"),
   (0x1FC6, "GREEK SMALL LETTER ETA WITH PERISPOMENI;6AND YPOGEGRAMMENI;
     1CAPITAL LETTER EPSILON WITH VARIA;5OXIA;3ETA WITH VARIA;5OXIA;5PROSGEGRAMMENI;
     1PSILI AND VARIA;3OXIA;3PERISPOMENI;1SMALL LETTER IOTA WITH VRACHY;5MACRON;
     5DIALYTIKA AND VARIA;7OXIA"),
   (0x1FD6, "GREEK SMALL LETTER IOTA WITH PERISPOMENI;5DIALYTIKA AND/1;
     1CAPITAL LETTER IOTA WITH VRACHY;5MACRON;5VARIA;5OXIA"),
   (0x1FDD, "GREEK DASIA AND VARIA;3OXIA;3PERISPOMENI;1SMALL LETTER UPSILON WITH VRACHY;5MACRON;
     5DIALYTIKA AND VARIA;7OXIA;3RHO WITH PSILI;5DASIA;3UPSILON WITH PERISPOMENI;5DIALYTIKA AND/1;
     1CAPITAL LETTER UPSILON WITH VRACHY;5MACRON;5VARIA;5OXIA;3RHO WITH DASIA;1DIALYTIKA AND VARIA;
     3OXIA;1VARIA"),
   (0x1FF2, "GREEK SMALL LETTER OMEGA WITH VARIA AND YPOGEGRAMMENI;4WITH/1;5OXIA AND/1"),
   (0x1FF6, "GREEK SMALL LETTER OMEGA WITH PERISPOMENI;6AND YPOGEGRAMMENI;
     1CAPITAL LETTER OMICRON WITH VARIA;5OXIA;3OMEGA WITH VARIA;5OXIA;5PROSGEGRAMMENI;1OXIA;
     1DASIA"),
   (0x2000, "EN QUAD;EM/1;EN SPACE;EM/1;THREE-PER-EM/1;FOUR-PER-EM/1;SIX-PER-EM/1;FIGURE/1;
     PUNCTUATION/1;THIN/1;HAIR/1;ZERO WIDTH/1;2NON-JOINER;2JOINER;LEFT-TO-RIGHT MARK;
     RIGHT-TO-LEFT/1;HYPHEN;NON-BREAKING/1;FIGURE DASH;EN/1;EM/1;HORIZONTAL BAR;
     DOUBLE VERTICAL LINE;1LOW/1;LEFT SINGLE QUOTATION MARK;RIGHT/3;SINGLE LOW-9/2;
     1HIGH-REVERSED-9/2;LEFT DOUBLE/2;RIGHT/3;DOUBLE LOW-9/2;1HIGH-REVERSED-9/2;DAGGER;DOUBLE/1;
     BULLET;TRIANGULAR/1;ONE DOT LEADER;TWO/2;HORIZONTAL ELLIPSIS;HYPHENATION POINT;LINE SEPARATOR;
     PARAGRAPH/1;LEFT-TO-RIGHT EMBEDDING;RIGHT-TO-LEFT/1;POP DIRECTIONAL FORMATTING;
     LEFT-TO-RIGHT OVERRIDE;RIGHT-TO-LEFT/1;NARROW NO-BREAK SPACE;PER MILLE SIGN;1TEN THOUSAND/1;
     PRIME;DOUBLE/1;TRIPLE/1;REVERSED/1;1DOUBLE/1;1TRIPLE/1;CARET;
     SINGLE LEFT-POINTING ANGLE QUOTATION MARK;1RIGHT-POINTING/3;REFERENCE/1;DOUBLE EXCLAMATION/1;
     INTERROBANG;OVERLINE;UNDERTIE;CHARACTER TIE;CARET INSERTION POINT;ASTERISM;HYPHEN BULLET;
     FRACTION SLASH;LEFT SQUARE BRACKET WITH QUILL;RIGHT/4;DOUBLE QUESTION MARK;
     QUESTION EXCLAMATION/1;EXCLAMATION QUESTION/1;TIRONIAN SIGN ET;REVERSED PILCROW SIGN;
     BLACK LEFTWARDS BULLET;1RIGHTWARDS/1;LOW ASTERISK;REVERSED SEMICOLON;CLOSE UP;
     TWO ASTERISKS ALIGNED VERTICALLY;COMMERCIAL MINUS SIGN;SWUNG DASH;INVERTED UNDERTIE;
     FLOWER PUNCTUATION MARK;THREE DOT PUNCTUATION;QUADRUPLE PRIME;FOUR DOT PUNCTUATION;FIVE/2;
     TWO/2;FOUR DOT MARK;DOTTED CROSS;TRICOLON;VERTICAL FOUR DOTS;MEDIUM MATHEMATICAL SPACE;
     WORD JOINER;FUNCTION APPLICATION;INVISIBLE TIMES;1SEPARATOR;1PLUS"),
   (0x2066, "LEFT-TO-RIGHT ISOLATE;RIGHT-TO-LEFT/1;FIRST STRONG/1;POP DIRECTIONAL/1;
     INHIBIT SYMMETRIC SWAPPING;ACTIVATE/2;INHIBIT ARABIC FORM SHAPING;ACTIVATE/3;
     NATIONAL DIGIT SHAPES;NOMINAL/2;SUPERSCRIPT ZERO;1LATIN SMALL LETTER I"),
   (0x2074, "SUPERSCRIPT FOUR;1FIVE;1SIX;1SEVEN;1EIGHT;1NINE;1PLUS SIGN;1MINUS;1EQUALS SIGN;
     1LEFT PARENTHESIS;1RIGHT/1;1LATIN SMALL LETTER N;SUBSCRIPT ZERO;1ONE;1TWO;1THREE;1FOUR;1FIVE;
     1SIX;1SEVEN;1EIGHT;1NINE;1PLUS SIGN;1MINUS;1EQUALS SIGN;1LEFT PARENTHESIS;1RIGHT/1"),
   (0x2090, "LATIN SUBSCRIPT SMALL LETTER A;4E;4O;4X;4SCHWA;4H;4K;+3;4P;4S;+1"),
   (0x20A0, "EURO-CURRENCY SIGN;COLON/1;CRUZEIRO/1;FRENCH FRANC/1;LIRA/1;MILL/1;NAIRA/1;PESETA/1;
     RUPEE/1;WON/1;NEW SHEQEL/1;DONG/1;EURO/1;KIP/1;TUGRIK/1;DRACHMA/1;GERMAN PENNY/1;PESO/1;
     GUARANI/1;AUSTRAL/1;HRYVNIA/1;CEDI/1;LIVRE TOURNOIS/1;SPESMILO/1;TENGE/1;INDIAN RUPEE/1;
     TURKISH LIRA/1;NORDIC MARK/1;MANAT/1;RUBLE/1;LARI/1;BITCOIN/1;SOM/1"),
   (0x20D0, "COMBINING LEFT HARPOON ABOVE;1RIGHT/2;1LONG VERTICAL LINE OVERLAY;1SHORT/3;
     1ANTICLOCKWISE ARROW ABOVE;1CLOCKWISE/2;1LEFT/2;1RIGHT/2;1RING OVERLAY;1CLOCKWISE/2;
     1ANTICLOCKWISE/2;1THREE DOTS ABOVE;1FOUR/2;1ENCLOSING CIRCLE;2SQUARE;2DIAMOND;
     2CIRCLE BACKSLASH;1LEFT RIGHT ARROW ABOVE;1ENCLOSING SCREEN;2KEYCAP;2UPWARD POINTING TRIANGLE;
     1REVERSE SOLIDUS OVERLAY;1DOUBLE VERTICAL STROKE/1;1ANNUITY SYMBOL;1TRIPLE UNDERDOT;
     1WIDE BRIDGE ABOVE;1LEFTWARDS ARROW OVERLAY;1LONG DOUBLE SOLIDUS/1;
     1RIGHTWARDS HARPOON WITH BARB DOWNWARDS;1LEFTWARDS/4;1LEFT ARROW BELOW;1RIGHT/2;
     1ASTERISK ABOVE"),
   (0x2100, "ACCOUNT OF;ADDRESSED TO THE SUBJECT;DOUBLE-STRUCK CAPITAL C;DEGREE CELSIUS;
     CENTRE LINE SYMBOL;CARE OF;CADA UNA;EULER CONSTANT;SCRUPLE;DEGREE FAHRENHEIT;SCRIPT SMALL G;
     1CAPITAL H;BLACK-LETTER/2;DOUBLE-STRUCK/2;PLANCK CONSTANT;2OVER TWO PI;SCRIPT CAPITAL I;
     BLACK-LETTER/2;SCRIPT CAPITAL L;1SMALL L;L B BAR SYMBOL;DOUBLE-STRUCK CAPITAL N;NUMERO SIGN;
     SOUND RECORDING COPYRIGHT;SCRIPT CAPITAL P;DOUBLE-STRUCK/2;+1;SCRIPT CAPITAL R;BLACK-LETTER/2;
     DOUBLE-STRUCK/2;PRESCRIPTION TAKE;RESPONSE;SERVICE MARK;TELEPHONE SIGN;TRADE MARK/1;VERSICLE;
     DOUBLE-STRUCK CAPITAL Z;OUNCE SIGN;OHM/1;INVERTED/2;BLACK-LETTER CAPITAL Z;
     TURNED GREEK SMALL LETTER IOTA;KELVIN SIGN;ANGSTROM/1;SCRIPT CAPITAL B;BLACK-LETTER CAPITAL C;
     ESTIMATED SYMBOL;SCRIPT SMALL E;1CAPITAL E;+1;TURNED/2;SCRIPT CAPITAL M;1SMALL O;ALEF SYMBOL;
     BET/1;GIMEL/1;DALET/1;INFORMATION SOURCE;ROTATED CAPITAL Q;FACSIMILE SIGN;
     DOUBLE-STRUCK SMALL PI;2GAMMA;1CAPITAL/1;2PI;1N-ARY SUMMATION;TURNED SANS-SERIF CAPITAL G;3L;
     REVERSED/3;TURNED SANS-SERIF CAPITAL Y;DOUBLE-STRUCK ITALIC CAPITAL D;2SMALL D;+1;3I;+1;
     PROPERTY LINE;TURNED AMPERSAND;PER SIGN;AKTIESELSKAB;TURNED SMALL F;
     SYMBOL FOR SAMARITAN SOURCE;VULGAR FRACTION ONE SEVENTH;3NINTH;3TENTH;3THIRD;2TWO THIRDS;
     2ONE FIFTH;2TWO FIFTHS;2THREE/1;2FOUR/1;2ONE SIXTH;2FIVE SIXTHS;2ONE EIGHTH;2THREE EIGHTHS;
     2FIVE/1;2SEVEN/1;FRACTION NUMERATOR ONE;ROMAN NUMERAL/1;2TWO;2THREE;2FOUR;2FIVE;2SIX;2SEVEN;
     2EIGHT;2NINE;2TEN;2ELEVEN;2TWELVE;2FIFTY;2ONE HUNDRED;2FIVE/1;2ONE THOUSAND;
     SMALL ROMAN NUMERAL ONE;3TWO;3THREE;3FOUR;3FIVE;3SIX;3SEVEN;3EIGHT;3NINE;3TEN;3ELEVEN;3TWELVE;
     3FIFTY;3ONE HUNDRED;3FIVE/1;3ONE THOUSAND;ROMAN NUMERAL ONE THOUSAND C D;2FIVE THOUSAND;2TEN/1;
     2REVERSED ONE HUNDRED;LATIN SMALL LETTER REVERSED C;ROMAN NUMERAL SIX LATE FORM;2FIFTY EARLY/1;
     3THOUSAND;2ONE HUNDRED/1;VULGAR FRACTION ZERO THIRDS;TURNED DIGIT TWO;2THREE"),
   (0x2190, "LEFTWARDS ARROW;UPWARDS/1;RIGHTWARDS/1;DOWNWARDS/1;LEFT RIGHT/1;UP DOWN/1;NORTH WEST/1;
     1EAST/1;SOUTH/2;1WEST/1;LEFTWARDS ARROW WITH STROKE;RIGHTWARDS/3;LEFTWARDS WAVE ARROW;
     RIGHTWARDS/2;LEFTWARDS TWO HEADED/1;UPWARDS/3;RIGHTWARDS/3;DOWNWARDS/3;
     LEFTWARDS ARROW WITH TAIL;RIGHTWARDS/3;LEFTWARDS ARROW FROM BAR;UPWARDS/3;RIGHTWARDS/3;
     DOWNWARDS/3;UP DOWN ARROW WITH BASE;LEFTWARDS ARROW WITH HOOK;RIGHTWARDS/3;
     LEFTWARDS ARROW WITH LOOP;RIGHTWARDS/3;LEFT RIGHT WAVE ARROW;2ARROW WITH STROKE;
     DOWNWARDS ZIGZAG ARROW;UPWARDS ARROW WITH TIP LEFTWARDS;4RIGHTWARDS;
     DOWNWARDS ARROW WITH TIP LEFTWARDS;4RIGHTWARDS;RIGHTWARDS ARROW WITH CORNER DOWNWARDS;
     DOWNWARDS ARROW WITH CORNER LEFTWARDS;ANTICLOCKWISE TOP SEMICIRCLE ARROW;CLOCKWISE/3;
     NORTH WEST ARROW TO LONG BAR;LEFTWARDS ARROW TO BAR OVER RIGHTWARDS ARROW TO/1;
     ANTICLOCKWISE OPEN CIRCLE ARROW;CLOCKWISE/3;LEFTWARDS HARPOON WITH BARB UPWARDS;4DOWNWARDS;
     UPWARDS HARPOON WITH BARB RIGHTWARDS;4LEFTWARDS;RIGHTWARDS HARPOON WITH BARB UPWARDS;
     4DOWNWARDS;DOWNWARDS HARPOON WITH BARB RIGHTWARDS;4LEFTWARDS;
     RIGHTWARDS ARROW OVER LEFTWARDS ARROW;UPWARDS ARROW LEFTWARDS OF DOWNWARDS/1;
     LEFTWARDS ARROW OVER RIGHTWARDS/1;1PAIRED ARROWS;UPWARDS/2;RIGHTWARDS/2;DOWNWARDS/2;
     LEFTWARDS HARPOON OVER RIGHTWARDS HARPOON;RIGHTWARDS HARPOON OVER LEFTWARDS/1;
     LEFTWARDS DOUBLE ARROW WITH STROKE;LEFT RIGHT/4;RIGHTWARDS/4;LEFTWARDS DOUBLE ARROW;UPWARDS/2;
     RIGHTWARDS/2;DOWNWARDS/2;LEFT RIGHT/2;UP DOWN/2;NORTH WEST/2;1EAST/2;SOUTH/3;1WEST/2;
     LEFTWARDS TRIPLE/1;RIGHTWARDS/2;LEFTWARDS SQUIGGLE/1;RIGHTWARDS/2;
     UPWARDS ARROW WITH DOUBLE STROKE;DOWNWARDS/4;LEFTWARDS DASHED ARROW;UPWARDS/2;RIGHTWARDS/2;
     DOWNWARDS/2;LEFTWARDS ARROW TO BAR;RIGHTWARDS/3;LEFTWARDS WHITE ARROW;UPWARDS/2;RIGHTWARDS/2;
     DOWNWARDS/2;UPWARDS WHITE ARROW FROM BAR;3ON PEDESTAL;5WITH HORIZONTAL BAR;6VERTICAL/1;
     2DOUBLE ARROW;4ON PEDESTAL;RIGHTWARDS WHITE ARROW FROM WALL;NORTH WEST ARROW TO CORNER;
     SOUTH EAST/3;UP DOWN WHITE ARROW;RIGHT ARROW WITH SMALL CIRCLE;
     DOWNWARDS ARROW LEFTWARDS OF UPWARDS ARROW;THREE RIGHTWARDS ARROWS;
     LEFTWARDS ARROW WITH VERTICAL STROKE;RIGHTWARDS/4;LEFT RIGHT/4;LEFTWARDS ARROW WITH DOUBLE/2;
     RIGHTWARDS/5;LEFT RIGHT/5;LEFTWARDS OPEN-HEADED ARROW;RIGHTWARDS/2;LEFT RIGHT/2"),
   (0x2200, "FOR ALL;COMPLEMENT;PARTIAL DIFFERENTIAL;THERE EXISTS;1DOES NOT EXIST;EMPTY SET;
     INCREMENT;NABLA;ELEMENT OF;NOT AN/2;SMALL/2;CONTAINS AS MEMBER;DOES NOT CONTAIN/2;
     SMALL CONTAINS/2;END OF PROOF;N-ARY PRODUCT;1COPRODUCT;1SUMMATION;MINUS SIGN;MINUS-OR-PLUS/1;
     DOT PLUS;DIVISION SLASH;SET MINUS;ASTERISK OPERATOR;RING/1;BULLET/1;SQUARE ROOT;CUBE/1;
     FOURTH/1;PROPORTIONAL TO;INFINITY;RIGHT ANGLE;ANGLE;MEASURED/1;SPHERICAL/1;DIVIDES;
     DOES NOT DIVIDE;PARALLEL TO;NOT/2;LOGICAL AND;1OR;INTERSECTION;UNION;INTEGRAL;DOUBLE/1;
     TRIPLE/1;CONTOUR/1;SURFACE/1;VOLUME/1;CLOCKWISE/1;1CONTOUR/1;ANTICLOCKWISE/2;THEREFORE;BECAUSE;
     RATIO;PROPORTION;DOT MINUS;EXCESS;GEOMETRIC PROPORTION;HOMOTHETIC;TILDE OPERATOR;
     REVERSED TILDE;INVERTED LAZY S;SINE WAVE;WREATH PRODUCT;NOT TILDE;MINUS/1;
     ASYMPTOTICALLY EQUAL TO;NOT/3;APPROXIMATELY/2;1BUT NOT ACTUALLY/2;NEITHER APPROXIMATELY NOR/3;
     ALMOST/2;NOT/3;ALMOST EQUAL OR/2;TRIPLE TILDE;ALL EQUAL TO;EQUIVALENT/1;GEOMETRICALLY/2;
     DIFFERENCE BETWEEN;APPROACHES THE LIMIT;GEOMETRICALLY EQUAL TO;
     APPROXIMATELY EQUAL TO OR THE IMAGE OF;IMAGE OF OR APPROXIMATELY EQUAL TO;COLON EQUALS;
     EQUALS COLON;RING IN EQUAL TO;RING/2;CORRESPONDS/1;ESTIMATES;EQUIANGULAR TO;STAR EQUALS;
     DELTA EQUAL TO;EQUAL TO BY DEFINITION;MEASURED BY;QUESTIONED EQUAL TO;NOT/2;IDENTICAL/1;NOT/2;
     STRICTLY EQUIVALENT/1;LESS-THAN OR EQUAL/1;GREATER-THAN/3;LESS-THAN OVER/2;GREATER-THAN/3;
     LESS-THAN BUT NOT/2;GREATER-THAN/4;MUCH LESS-THAN;1GREATER-THAN;BETWEEN;NOT EQUIVALENT TO;
     1LESS-THAN;1GREATER-THAN;NEITHER LESS-THAN NOR EQUAL TO;1GREATER-THAN/3;
     LESS-THAN OR EQUIVALENT/1;GREATER-THAN/3;NEITHER LESS-THAN NOR/2;1GREATER-THAN/3;
     LESS-THAN OR GREATER-THAN;GREATER-THAN OR LESS-THAN;NEITHER LESS-THAN NOR GREATER-THAN;
     1GREATER-THAN NOR LESS-THAN;PRECEDES;SUCCEEDS;PRECEDES OR EQUAL TO;SUCCEEDS/3;
     PRECEDES OR EQUIVALENT/1;SUCCEEDS/3;DOES NOT PRECEDE;2SUCCEED;SUBSET OF;SUPERSET/1;
     NOT A SUBSET/1;2SUPERSET/1;SUBSET OF OR EQUAL TO;SUPERSET/4;NEITHER A SUBSET OF NOR/2;
     2SUPERSET/4;SUBSET OF WITH NOT/2;SUPERSET/5;MULTISET;1MULTIPLICATION;1UNION;SQUARE IMAGE OF;
     1ORIGINAL/1;1IMAGE OF OR EQUAL TO;1ORIGINAL/4;1CAP;1CUP;CIRCLED PLUS;1MINUS;1TIMES;
     1DIVISION SLASH;1DOT OPERATOR;1RING/1;1ASTERISK/1;1EQUALS;1DASH;SQUARED PLUS;1MINUS;1TIMES;
     1DOT OPERATOR;RIGHT TACK;LEFT/1;DOWN/1;UP/1;ASSERTION;MODELS;TRUE;FORCES;
     TRIPLE VERTICAL BAR RIGHT TURNSTILE;DOUBLE VERTICAL BAR DOUBLE/2;DOES NOT PROVE;NOT TRUE;
     DOES NOT FORCE;NEGATED DOUBLE VERTICAL BAR DOUBLE RIGHT TURNSTILE;PRECEDES UNDER RELATION;
     SUCCEEDS/2;NORMAL SUBGROUP OF;CONTAINS AS NORMAL SUBGROUP;NORMAL SUBGROUP OF OR EQUAL TO;
     CONTAINS AS NORMAL SUBGROUP/3;ORIGINAL OF;IMAGE/1;MULTIMAP;HERMITIAN CONJUGATE MATRIX;
     INTERCALATE;XOR;NAND;NOR;RIGHT ANGLE WITH ARC;1TRIANGLE;N-ARY LOGICAL AND;2OR;1INTERSECTION;
     1UNION;DIAMOND OPERATOR;DOT/1;STAR/1;DIVISION TIMES;BOWTIE;
     LEFT NORMAL FACTOR SEMIDIRECT PRODUCT;RIGHT/4;LEFT/2;RIGHT/2;REVERSED TILDE EQUALS;
     CURLY LOGICAL OR;2AND;DOUBLE SUBSET;1SUPERSET;1INTERSECTION;1UNION;PITCHFORK;
     EQUAL AND PARALLEL TO;LESS-THAN WITH DOT;GREATER-THAN/2;VERY MUCH LESS-THAN;2GREATER-THAN;
     LESS-THAN EQUAL TO OR/1;GREATER-THAN EQUAL TO OR LESS-THAN;EQUAL/3;3GREATER-THAN;3PRECEDES;
     3SUCCEEDS;DOES NOT PRECEDE OR EQUAL;2SUCCEED/2;NOT SQUARE IMAGE OF OR EQUAL TO;2ORIGINAL/4;
     SQUARE IMAGE OF OR NOT/2;1ORIGINAL/5;LESS-THAN BUT NOT EQUIVALENT/1;GREATER-THAN/4;PRECEDES/4;
     SUCCEEDS/4;NOT NORMAL SUBGROUP OF;DOES NOT CONTAIN AS NORMAL SUBGROUP;
     NOT NORMAL SUBGROUP OF OR EQUAL TO;DOES NOT CONTAIN AS NORMAL SUBGROUP OR EQUAL;
     VERTICAL ELLIPSIS;MIDLINE HORIZONTAL/1;UP RIGHT DIAGONAL/1;DOWN/3;
     ELEMENT OF WITH LONG HORIZONTAL STROKE;3VERTICAL BAR AT END OF/2;SMALL ELEMENT/9;
     ELEMENT OF WITH DOT ABOVE;3OVERBAR;SMALL/4;ELEMENT OF WITH UNDERBAR;3TWO HORIZONTAL STROKES;
     CONTAINS WITH LONG HORIZONTAL STROKE;2VERTICAL BAR AT END OF/2;SMALL/9;CONTAINS WITH OVERBAR;
     SMALL/3;Z NOTATION BAG MEMBERSHIP"),
   (0x2300, "DIAMETER SIGN;ELECTRIC ARROW;HOUSE;UP ARROWHEAD;DOWN/1;PROJECTIVE;PERSPECTIVE;
     WAVY LINE;LEFT CEILING;RIGHT/1;LEFT FLOOR;RIGHT/1;BOTTOM RIGHT CROP;1LEFT/1;TOP RIGHT/1;
     1LEFT/1;REVERSED NOT SIGN;SQUARE LOZENGE;ARC;SEGMENT;SECTOR;TELEPHONE RECORDER;
     POSITION INDICATOR;VIEWDATA SQUARE;PLACE OF INTEREST SIGN;TURNED NOT/1;WATCH;HOURGLASS;
     TOP LEFT CORNER;1RIGHT/1;BOTTOM LEFT/1;1RIGHT/1;TOP HALF INTEGRAL;BOTTOM/2;FROWN;SMILE;
     UP ARROWHEAD BETWEEN TWO HORIZONTAL BARS;OPTION KEY;ERASE TO THE RIGHT;X IN A RECTANGLE BOX;
     KEYBOARD;LEFT-POINTING ANGLE BRACKET;RIGHT-POINTING/2;ERASE TO THE LEFT;BENZENE RING;
     CYLINDRICITY;ALL AROUND-PROFILE;SYMMETRY;TOTAL RUNOUT;DIMENSION ORIGIN;CONICAL TAPER;SLOPE;
     COUNTERBORE;COUNTERSINK;APL FUNCTIONAL SYMBOL I-BEAM;3SQUISH QUAD;3QUAD EQUAL;4DIVIDE;4DIAMOND;
     4JOT;4CIRCLE;3CIRCLE STILE;4JOT;3SLASH BAR;3BACKSLASH/1;3QUAD SLASH;4BACKSLASH;4LESS-THAN;
     4GREATER-THAN;3LEFTWARDS VANE;3RIGHTWARDS/1;3QUAD LEFTWARDS ARROW;4RIGHTWARDS/1;
     3CIRCLE BACKSLASH;3DOWN TACK UNDERBAR;3DELTA STILE;3QUAD DOWN CARET;4DELTA;3DOWN TACK JOT;
     3UPWARDS VANE;3QUAD UPWARDS ARROW;3UP TACK OVERBAR;3DEL STILE;3QUAD UP CARET;4DEL;3UP TACK JOT;
     3DOWNWARDS VANE;3QUAD DOWNWARDS ARROW;3QUOTE UNDERBAR;3DELTA/1;3DIAMOND/1;3JOT/1;3CIRCLE/1;
     3UP SHOE JOT;3QUOTE QUAD;3CIRCLE STAR;3QUAD COLON;3UP TACK DIAERESIS;3DEL/1;3STAR/1;3JOT/1;
     3CIRCLE/1;3DOWN SHOE STILE;3LEFT/2;3TILDE DIAERESIS;3GREATER-THAN/1;3COMMA BAR;3DEL TILDE;
     3ZILDE;3STILE TILDE;3SEMICOLON UNDERBAR;3QUAD NOT EQUAL;4QUESTION;3DOWN CARET TILDE;3UP/2;
     3IOTA;3RHO;3OMEGA;3ALPHA UNDERBAR;3EPSILON/1;3IOTA/1;3OMEGA/1;3ALPHA;NOT CHECK MARK;
     RIGHT ANGLE WITH DOWNWARDS ZIGZAG ARROW;SHOULDERED OPEN BOX;BELL SYMBOL;
     VERTICAL LINE WITH MIDDLE DOT;INSERTION SYMBOL;CONTINUOUS UNDERLINE/1;DISCONTINUOUS/2;
     EMPHASIS/1;COMPOSITION/1;WHITE SQUARE WITH CENTRE VERTICAL LINE;ENTER SYMBOL;ALTERNATIVE KEY/1;
     HELM/1;CIRCLED HORIZONTAL BAR WITH NOTCH;1TRIANGLE DOWN;BROKEN CIRCLE WITH NORTHWEST ARROW;
     UNDO SYMBOL;MONOSTABLE/1;HYSTERESIS/1;OPEN-CIRCUIT-OUTPUT H-TYPE/1;1L-TYPE/1;
     PASSIVE-PULL-DOWN-OUTPUT/1;PASSIVE-PULL-UP-OUTPUT/1;DIRECT CURRENT SYMBOL FORM TWO;
     SOFTWARE-FUNCTION SYMBOL;APL FUNCTIONAL SYMBOL QUAD;DECIMAL SEPARATOR KEY SYMBOL;PREVIOUS PAGE;
     NEXT/1;PRINT SCREEN SYMBOL;CLEAR/2;LEFT PARENTHESIS UPPER HOOK;2EXTENSION;2LOWER HOOK;
     RIGHT PARENTHESIS UPPER/1;2EXTENSION;2LOWER HOOK;LEFT SQUARE BRACKET UPPER CORNER;3EXTENSION;
     3LOWER CORNER;RIGHT SQUARE BRACKET UPPER/1;3EXTENSION;3LOWER CORNER;
     LEFT CURLY BRACKET UPPER HOOK;3MIDDLE PIECE;3LOWER HOOK;CURLY BRACKET EXTENSION;
     RIGHT CURLY BRACKET UPPER HOOK;3MIDDLE PIECE;3LOWER HOOK;INTEGRAL EXTENSION;HORIZONTAL LINE/1;
     UPPER LEFT OR LOWER RIGHT CURLY BRACKET SECTION;1RIGHT OR LOWER LEFT/3;SUMMATION TOP;1BOTTOM;
     TOP SQUARE BRACKET;BOTTOM/2;3OVER TOP SQUARE BRACKET;RADICAL SYMBOL BOTTOM;
     LEFT VERTICAL BOX LINE;RIGHT/3;HORIZONTAL SCAN LINE-1;2LINE-3;2LINE-7;2LINE-9;
     DENTISTRY SYMBOL LIGHT VERTICAL AND TOP RIGHT;5BOTTOM/1;4WITH CIRCLE;3DOWN AND HORIZONTAL/2;
     3UP/4;3VERTICAL WITH TRIANGLE;3DOWN AND HORIZONTAL/2;3UP/4;3VERTICAL AND WAVE;
     3DOWN AND HORIZONTAL WITH/1;3UP/4;3DOWN AND HORIZONTAL;3UP/2;3VERTICAL AND TOP LEFT;5BOTTOM/1;
     SQUARE FOOT;RETURN SYMBOL;EJECT/1;VERTICAL LINE EXTENSION;METRICAL BREVE;1LONG OVER SHORT;
     1SHORT OVER LONG;1LONG OVER TWO SHORTS;1TWO SHORTS OVER LONG;3JOINED;1TRISEME;1TETRASEME;
     1PENTASEME;EARTH GROUND;FUSE;TOP PARENTHESIS;BOTTOM/1;TOP CURLY BRACKET;BOTTOM/2;
     TOP TORTOISE SHELL/1;BOTTOM/3;WHITE TRAPEZIUM;BENZENE RING WITH CIRCLE;STRAIGHTNESS;FLATNESS;
     AC CURRENT;ELECTRICAL INTERSECTION;DECIMAL EXPONENT SYMBOL;
     BLACK RIGHT-POINTING DOUBLE TRIANGLE;1LEFT-POINTING/2;1UP-POINTING/2;1DOWN-POINTING/2;
     1RIGHT-POINTING DOUBLE TRIANGLE WITH VERTICAL BAR;1LEFT-POINTING/5;
     1RIGHT-POINTING TRIANGLE WITH DOUBLE/2;ALARM CLOCK;STOPWATCH;TIMER CLOCK;
     HOURGLASS WITH FLOWING SAND;BLACK MEDIUM LEFT-POINTING TRIANGLE;2RIGHT-POINTING/1;
     2UP-POINTING/1;2DOWN-POINTING/1;DOUBLE VERTICAL BAR;BLACK SQUARE FOR STOP;1CIRCLE FOR RECORD;
     POWER SYMBOL;1ON-OFF/1;1ON/1;1SLEEP/1;OBSERVER EYE/1"),
   (0x2400, "SYMBOL FOR NULL;2START OF HEADING;4TEXT;2END/2;4TRANSMISSION;2ENQUIRY;2ACKNOWLEDGE;
     2BELL;2BACKSPACE;2HORIZONTAL TABULATION;2LINE FEED;2VERTICAL TABULATION;2FORM FEED;
     2CARRIAGE RETURN;2SHIFT OUT;3IN;2DATA LINK ESCAPE;2DEVICE CONTROL ONE;4TWO;4THREE;4FOUR;
     2NEGATIVE ACKNOWLEDGE;2SYNCHRONOUS IDLE;2END OF TRANSMISSION BLOCK;2CANCEL;2END OF MEDIUM;
     2SUBSTITUTE;2ESCAPE;2FILE SEPARATOR;2GROUP/1;2RECORD/1;2UNIT/1;2SPACE;2DELETE;BLANK SYMBOL;
     OPEN BOX;SYMBOL FOR NEWLINE;2DELETE FORM TWO;2SUBSTITUTE/2"),
   (0x2440, "OCR HOOK;1CHAIR;1FORK;1INVERTED/1;1BELT BUCKLE;1BOW TIE;1BRANCH BANK IDENTIFICATION;
     1AMOUNT OF CHECK;1DASH;1CUSTOMER ACCOUNT NUMBER;1DOUBLE BACKSLASH"),
   (0x2460, "CIRCLED DIGIT ONE;2TWO;2THREE;2FOUR;2FIVE;2SIX;2SEVEN;2EIGHT;2NINE;1NUMBER TEN;2ELEVEN;
     2TWELVE;2THIRTEEN;2FOURTEEN;2FIFTEEN;2SIXTEEN;2SEVENTEEN;2EIGHTEEN;2NINETEEN;2TWENTY;
     PARENTHESIZED DIGIT ONE;2TWO;2THREE;2FOUR;2FIVE;2SIX;2SEVEN;2EIGHT;2NINE;1NUMBER TEN;2ELEVEN;
     2TWELVE;2THIRTEEN;2FOURTEEN;2FIFTEEN;2SIXTEEN;2SEVENTEEN;2EIGHTEEN;2NINETEEN;2TWENTY;
     DIGIT ONE FULL STOP;1TWO/2;1THREE/2;1FOUR/2;1FIVE/2;1SIX/2;1SEVEN/2;1EIGHT/2;1NINE/2;
     NUMBER TEN/2;1ELEVEN/2;1TWELVE/2;1THIRTEEN/2;1FOURTEEN/2;1FIFTEEN/2;1SIXTEEN/2;1SEVENTEEN/2;
     1EIGHTEEN/2;1NINETEEN/2;1TWENTY/2;PARENTHESIZED LATIN SMALL LETTER A;+25;
     CIRCLED LATIN CAPITAL LETTER A;+25;2SMALL LETTER A;+25;1DIGIT ZERO;
     NEGATIVE CIRCLED NUMBER ELEVEN;3TWELVE;3THIRTEEN;3FOURTEEN;3FIFTEEN;3SIXTEEN;3SEVENTEEN;
     3EIGHTEEN;3NINETEEN;3TWENTY;DOUBLE CIRCLED DIGIT ONE;3TWO;3THREE;3FOUR;3FIVE;3SIX;3SEVEN;
     3EIGHT;3NINE;2NUMBER TEN;NEGATIVE CIRCLED DIGIT ZERO"),
   (0x2500, "BOX DRAWINGS LIGHT HORIZONTAL;2HEAVY/1;2LIGHT VERTICAL;2HEAVY/1;
     2LIGHT TRIPLE DASH HORIZONTAL;2HEAVY/3;2LIGHT TRIPLE DASH VERTICAL;2HEAVY/3;
     2LIGHT QUADRUPLE DASH HORIZONTAL;2HEAVY/3;2LIGHT QUADRUPLE DASH VERTICAL;2HEAVY/3;
     2LIGHT DOWN AND RIGHT;2DOWN LIGHT AND RIGHT HEAVY;3HEAVY AND RIGHT LIGHT;2HEAVY DOWN AND RIGHT;
     2LIGHT DOWN AND LEFT;2DOWN LIGHT AND LEFT HEAVY;3HEAVY AND LEFT LIGHT;2HEAVY DOWN AND LEFT;
     2LIGHT UP AND RIGHT;2UP LIGHT AND RIGHT HEAVY;3HEAVY AND RIGHT LIGHT;2HEAVY UP AND RIGHT;
     2LIGHT UP AND LEFT;2UP LIGHT AND LEFT HEAVY;3HEAVY AND LEFT LIGHT;2HEAVY UP AND LEFT;
     2LIGHT VERTICAL AND RIGHT;2VERTICAL LIGHT AND RIGHT HEAVY;2UP HEAVY AND RIGHT DOWN LIGHT;
     2DOWN HEAVY AND RIGHT UP/1;2VERTICAL HEAVY AND RIGHT/1;2DOWN LIGHT AND RIGHT UP HEAVY;
     2UP LIGHT AND RIGHT DOWN/1;2HEAVY VERTICAL AND RIGHT;2LIGHT VERTICAL AND LEFT;
     2VERTICAL LIGHT AND LEFT HEAVY;2UP HEAVY AND LEFT DOWN LIGHT;2DOWN HEAVY AND LEFT UP/1;
     2VERTICAL HEAVY AND LEFT/1;2DOWN LIGHT AND LEFT UP HEAVY;2UP LIGHT AND LEFT DOWN/1;
     2HEAVY VERTICAL AND LEFT;2LIGHT DOWN AND HORIZONTAL;2LEFT HEAVY AND RIGHT DOWN LIGHT;
     2RIGHT HEAVY AND LEFT/2;2DOWN LIGHT AND HORIZONTAL HEAVY;3HEAVY AND HORIZONTAL LIGHT;
     2RIGHT LIGHT AND LEFT DOWN HEAVY;2LEFT LIGHT AND RIGHT/2;2HEAVY DOWN AND HORIZONTAL;
     2LIGHT UP/2;2LEFT HEAVY AND RIGHT UP LIGHT;2RIGHT HEAVY AND LEFT/2;
     2UP LIGHT AND HORIZONTAL HEAVY;3HEAVY AND HORIZONTAL LIGHT;2RIGHT LIGHT AND LEFT UP HEAVY;
     2LEFT LIGHT AND RIGHT/2;2HEAVY UP AND HORIZONTAL;2LIGHT VERTICAL/2;
     2LEFT HEAVY AND RIGHT VERTICAL LIGHT;2RIGHT HEAVY AND LEFT/2;
     2VERTICAL LIGHT AND HORIZONTAL HEAVY;2UP HEAVY AND DOWN HORIZONTAL LIGHT;2DOWN HEAVY AND UP/2;
     2VERTICAL HEAVY AND/2;2LEFT UP HEAVY AND RIGHT DOWN/1;2RIGHT UP HEAVY AND LEFT/2;
     2LEFT DOWN HEAVY AND RIGHT UP/1;2RIGHT DOWN HEAVY AND LEFT/2;
     2DOWN LIGHT AND UP HORIZONTAL HEAVY;2UP LIGHT AND DOWN/2;2RIGHT LIGHT AND LEFT VERTICAL/1;
     2LEFT LIGHT AND RIGHT/2;2HEAVY VERTICAL AND HORIZONTAL;2LIGHT DOUBLE DASH/1;2HEAVY/3;
     2LIGHT DOUBLE DASH VERTICAL;2HEAVY/3;2DOUBLE HORIZONTAL;3VERTICAL;
     2DOWN SINGLE AND RIGHT DOUBLE;3DOUBLE AND RIGHT SINGLE;2DOUBLE DOWN AND RIGHT;
     2DOWN SINGLE AND LEFT DOUBLE;3DOUBLE AND LEFT SINGLE;2DOUBLE DOWN AND LEFT;
     2UP SINGLE AND RIGHT DOUBLE;3DOUBLE AND RIGHT SINGLE;2DOUBLE UP AND RIGHT;
     2UP SINGLE AND LEFT DOUBLE;3DOUBLE AND LEFT SINGLE;2DOUBLE UP AND LEFT;
     2VERTICAL SINGLE AND RIGHT DOUBLE;3DOUBLE AND RIGHT SINGLE;2DOUBLE VERTICAL AND RIGHT;
     2VERTICAL SINGLE AND LEFT DOUBLE;3DOUBLE AND LEFT SINGLE;2DOUBLE VERTICAL AND LEFT;
     2DOWN SINGLE AND HORIZONTAL DOUBLE;3DOUBLE AND HORIZONTAL SINGLE;2DOUBLE DOWN AND HORIZONTAL;
     2UP SINGLE AND HORIZONTAL DOUBLE;3DOUBLE AND HORIZONTAL SINGLE;2DOUBLE UP AND HORIZONTAL;
     2VERTICAL SINGLE AND HORIZONTAL DOUBLE;3DOUBLE AND HORIZONTAL SINGLE;
     2DOUBLE VERTICAL AND HORIZONTAL;2LIGHT ARC DOWN AND RIGHT;6LEFT;4UP/2;6RIGHT;
     3DIAGONAL UPPER RIGHT TO LOWER LEFT;5LEFT TO LOWER RIGHT;4CROSS;3LEFT;3UP;3RIGHT;3DOWN;
     2HEAVY LEFT;3UP;3RIGHT;3DOWN;2LIGHT LEFT AND HEAVY RIGHT;3UP AND HEAVY DOWN;
     2HEAVY LEFT AND LIGHT RIGHT;3UP AND LIGHT DOWN;UPPER HALF BLOCK;LOWER ONE EIGHTH/1;2QUARTER/1;
     1THREE EIGHTHS/1;1HALF/1;1FIVE EIGHTHS/1;1THREE QUARTERS/1;1SEVEN EIGHTHS/1;FULL/1;
     LEFT SEVEN EIGHTHS/1;1THREE QUARTERS/1;1FIVE EIGHTHS/1;1HALF/1;1THREE EIGHTHS/1;1ONE QUARTER/1;
     2EIGHTH/1;RIGHT HALF/1;LIGHT SHADE;MEDIUM/1;DARK/1;UPPER ONE EIGHTH BLOCK;RIGHT/3;
     QUADRANT LOWER LEFT;2RIGHT;1UPPER LEFT;3AND LOWER LEFT AND LOWER RIGHT;5RIGHT;
     4UPPER RIGHT AND LOWER LEFT;8RIGHT;2RIGHT;3AND LOWER LEFT;6AND LOWER RIGHT;BLACK SQUARE;
     WHITE/1;2WITH ROUNDED CORNERS;2CONTAINING BLACK SMALL SQUARE;SQUARE WITH HORIZONTAL FILL;
     2VERTICAL/1;2ORTHOGONAL CROSSHATCH/1;2UPPER LEFT TO LOWER RIGHT/1;3RIGHT TO LOWER LEFT/1;
     2DIAGONAL CROSSHATCH/1;BLACK SMALL SQUARE;WHITE/2;BLACK RECTANGLE;WHITE/1;BLACK VERTICAL/1;
     WHITE/2;BLACK PARALLELOGRAM;WHITE/1;BLACK UP-POINTING TRIANGLE;WHITE/2;
     BLACK UP-POINTING SMALL/1;WHITE/3;BLACK RIGHT-POINTING/1;WHITE/2;BLACK RIGHT-POINTING SMALL/1;
     WHITE/3;BLACK RIGHT-POINTING POINTER;WHITE/2;BLACK DOWN-POINTING TRIANGLE;WHITE/2;
     BLACK DOWN-POINTING SMALL/1;WHITE/3;BLACK LEFT-POINTING/1;WHITE/2;BLACK LEFT-POINTING SMALL/1;
     WHITE/3;BLACK LEFT-POINTING POINTER;WHITE/2;BLACK DIAMOND;WHITE/1;
     2CONTAINING BLACK SMALL DIAMOND;FISHEYE;LOZENGE;WHITE CIRCLE;DOTTED/1;
     CIRCLE WITH VERTICAL FILL;BULLSEYE;BLACK CIRCLE;CIRCLE WITH LEFT HALF BLACK;2RIGHT/2;2LOWER/2;
     2UPPER/2;3RIGHT QUADRANT/1;2ALL BUT UPPER LEFT/2;LEFT HALF BLACK CIRCLE;RIGHT/3;INVERSE BULLET;
     1WHITE CIRCLE;UPPER HALF/3;LOWER/4;UPPER LEFT QUADRANT CIRCULAR ARC;1RIGHT/3;LOWER/4;1LEFT/3;
     UPPER HALF CIRCLE;LOWER/2;BLACK LOWER RIGHT TRIANGLE;2LEFT/1;1UPPER/2;2RIGHT/1;WHITE BULLET;
     SQUARE WITH LEFT HALF BLACK;2RIGHT/2;2UPPER LEFT DIAGONAL/2;2LOWER RIGHT/3;
     WHITE SQUARE WITH VERTICAL BISECTING LINE;1UP-POINTING TRIANGLE WITH DOT;
     UP-POINTING TRIANGLE WITH LEFT HALF BLACK;3RIGHT/2;LARGE CIRCLE;
     WHITE SQUARE WITH UPPER LEFT QUADRANT;3LOWER/2;4RIGHT/1;3UPPER/2;1CIRCLE WITH UPPER LEFT/1;
     3LOWER/2;4RIGHT/1;3UPPER/2;UPPER LEFT TRIANGLE;1RIGHT/1;LOWER LEFT/1;WHITE MEDIUM SQUARE;
     BLACK/2;WHITE MEDIUM SMALL/1;BLACK/3;LOWER RIGHT TRIANGLE"),
   (0x2600, "BLACK SUN WITH RAYS;CLOUD;UMBRELLA;SNOWMAN;COMET;BLACK STAR;WHITE/1;LIGHTNING;
     THUNDERSTORM;SUN;ASCENDING NODE;DESCENDING/1;CONJUNCTION;OPPOSITION;BLACK TELEPHONE;WHITE/1;
     BALLOT BOX;2WITH CHECK;3X;SALTIRE;UMBRELLA WITH RAIN DROPS;HOT BEVERAGE;WHITE SHOGI PIECE;
     BLACK/2;SHAMROCK;REVERSED ROTATED FLORAL HEART BULLET;BLACK LEFT POINTING INDEX;1RIGHT/2;
     WHITE LEFT/2;1UP/2;1RIGHT/2;1DOWN/2;SKULL AND CROSSBONES;CAUTION SIGN;RADIOACTIVE/1;
     BIOHAZARD/1;CADUCEUS;ANKH;ORTHODOX CROSS;CHI RHO;CROSS OF LORRAINE;2JERUSALEM;
     STAR AND CRESCENT;FARSI SYMBOL;ADI SHAKTI;HAMMER AND SICKLE;PEACE SYMBOL;YIN YANG;
     TRIGRAM FOR HEAVEN;2LAKE;2FIRE;2THUNDER;2WIND;2WATER;2MOUNTAIN;2EARTH;WHEEL OF DHARMA;
     WHITE FROWNING FACE;1SMILING/1;BLACK/2;WHITE SUN WITH RAYS;FIRST QUARTER MOON;LAST/2;MERCURY;
     FEMALE SIGN;EARTH;MALE SIGN;JUPITER;SATURN;URANUS;NEPTUNE;PLUTO;ARIES;TAURUS;GEMINI;CANCER;LEO;
     VIRGO;LIBRA;SCORPIUS;SAGITTARIUS;CAPRICORN;AQUARIUS;PISCES;WHITE CHESS KING;2QUEEN;2ROOK;
     2BISHOP;2KNIGHT;2PAWN;BLACK CHESS KING;2QUEEN;2ROOK;2BISHOP;2KNIGHT;2PAWN;1SPADE SUIT;
     WHITE HEART/1;1DIAMOND/1;BLACK CLUB/1;WHITE SPADE/1;BLACK HEART/1;1DIAMOND/1;WHITE CLUB/1;
     HOT SPRINGS;QUARTER NOTE;EIGHTH/1;BEAMED EIGHTH NOTES;1SIXTEENTH/1;MUSIC FLAT SIGN;1NATURAL/1;
     1SHARP/1;WEST SYRIAC CROSS;EAST/2;UNIVERSAL RECYCLING SYMBOL;
     RECYCLING SYMBOL FOR TYPE-1 PLASTICS;3TYPE-2/1;3TYPE-3/1;3TYPE-4/1;3TYPE-5/1;3TYPE-6/1;
     3TYPE-7/1;3GENERIC MATERIALS;BLACK UNIVERSAL RECYCLING SYMBOL;RECYCLED PAPER/1;
     PARTIALLY-RECYCLED/2;PERMANENT PAPER SIGN;WHEELCHAIR SYMBOL;DIE FACE-1;+5;
     WHITE CIRCLE WITH DOT RIGHT;3TWO DOTS;BLACK CIRCLE WITH WHITE DOT RIGHT;3TWO WHITE DOTS;
     MONOGRAM FOR YANG;2YIN;DIGRAM FOR GREATER YANG;2LESSER YIN;3YANG;2GREATER YIN;WHITE FLAG;
     BLACK/1;HAMMER AND PICK;ANCHOR;CROSSED SWORDS;STAFF OF AESCULAPIUS;SCALES;ALEMBIC;FLOWER;GEAR;
     STAFF OF HERMES;ATOM SYMBOL;FLEUR-DE-LIS;OUTLINED WHITE STAR;THREE LINES CONVERGING RIGHT;
     3LEFT;WARNING SIGN;HIGH VOLTAGE/1;DOUBLED FEMALE/1;1MALE/1;INTERLOCKED FEMALE AND/2;
     MALE AND FEMALE/1;1WITH STROKE/1;3AND MALE AND FEMALE/1;VERTICAL MALE WITH STROKE/1;
     HORIZONTAL/4;MEDIUM WHITE CIRCLE;1BLACK/1;1SMALL WHITE/1;MARRIAGE SYMBOL;DIVORCE/1;
     UNMARRIED PARTNERSHIP/1;COFFIN;FUNERAL URN;NEUTER;CERES;PALLAS;JUNO;VESTA;CHIRON;
     BLACK MOON LILITH;SEXTILE;SEMISEXTILE;QUINCUNX;SESQUIQUADRATE;SOCCER BALL;BASEBALL;SQUARED KEY;
     WHITE DRAUGHTS MAN;2KING;BLACK DRAUGHTS MAN;2KING;SNOWMAN WITHOUT SNOW;SUN BEHIND CLOUD;RAIN;
     BLACK SNOWMAN;THUNDER CLOUD AND RAIN;TURNED WHITE SHOGI PIECE;1BLACK/2;WHITE DIAMOND IN SQUARE;
     CROSSING LANES;DISABLED CAR;OPHIUCHUS;PICK;CAR SLIDING;HELMET WITH WHITE CROSS;
     CIRCLED CROSSING LANES;CHAINS;NO ENTRY;ALTERNATE ONE-WAY LEFT WAY TRAFFIC;BLACK TWO-WAY/3;
     WHITE/4;BLACK LEFT LANE MERGE;WHITE/3;DRIVE SLOW SIGN;HEAVY WHITE DOWN-POINTING TRIANGLE;
     LEFT CLOSED ENTRY;SQUARED SALTIRE;FALLING DIAGONAL IN WHITE CIRCLE IN BLACK SQUARE;BLACK TRUCK;
     RESTRICTED LEFT ENTRY-1;+1;ASTRONOMICAL SYMBOL FOR URANUS;
     HEAVY CIRCLE WITH STROKE AND TWO DOTS ABOVE;PENTAGRAM;RIGHT-HANDED INTERLACED/1;LEFT-HANDED/2;
     INVERTED/1;BLACK CROSS ON SHIELD;SHINTO SHRINE;CHURCH;CASTLE;HISTORIC SITE;GEAR WITHOUT HUB;
     1WITH HANDLES;MAP SYMBOL FOR LIGHTHOUSE;MOUNTAIN;UMBRELLA ON GROUND;FOUNTAIN;FLAG IN HOLE;
     FERRY;SAILBOAT;SQUARE FOUR CORNERS;SKIER;ICE SKATE;PERSON WITH BALL;TENT;JAPANESE BANK SYMBOL;
     HEADSTONE GRAVEYARD/1;FUEL PUMP;CUP ON BLACK SQUARE;
     WHITE FLAG WITH HORIZONTAL MIDDLE BLACK STRIPE"),
   (0x2700, "BLACK SAFETY SCISSORS;UPPER BLADE/1;BLACK/1;LOWER BLADE/1;WHITE/1;1HEAVY CHECK MARK;
     TELEPHONE LOCATION SIGN;TAPE DRIVE;AIRPLANE;ENVELOPE;RAISED FIST;1HAND;VICTORY/1;WRITING/1;
     LOWER RIGHT PENCIL;PENCIL;UPPER RIGHT/1;WHITE NIB;BLACK/1;CHECK MARK;HEAVY/2;MULTIPLICATION X;
     HEAVY/2;BALLOT X;HEAVY/2;OUTLINED GREEK CROSS;HEAVY/2;OPEN CENTRE/1;HEAVY/3;LATIN/1;
     SHADOWED WHITE/2;OUTLINED/2;MALTESE/1;STAR OF DAVID;FOUR TEARDROP-SPOKED ASTERISK;
     1BALLOON-SPOKED/1;HEAVY/3;FOUR CLUB-SPOKED/1;BLACK FOUR POINTED STAR;WHITE/3;SPARKLES;
     STRESS OUTLINED WHITE STAR;CIRCLED/2;OPEN CENTRE BLACK/1;BLACK CENTRE WHITE/1;OUTLINED BLACK/1;
     HEAVY/3;PINWHEEL/1;SHADOWED WHITE/1;HEAVY ASTERISK;OPEN CENTRE/1;EIGHT SPOKED/1;
     1POINTED BLACK STAR;2PINWHEEL/1;SIX POINTED BLACK/1;EIGHT POINTED RECTILINEAR/2;HEAVY/5;
     TWELVE POINTED/2;SIXTEEN POINTED ASTERISK;TEARDROP-SPOKED/1;OPEN CENTRE/2;HEAVY/2;
     SIX PETALLED BLACK AND WHITE FLORETTE;BLACK/1;WHITE/1;EIGHT PETALLED OUTLINED BLACK/1;
     CIRCLED OPEN CENTRE EIGHT POINTED STAR;HEAVY TEARDROP-SPOKED PINWHEEL ASTERISK;SNOWFLAKE;
     TIGHT TRIFOLIATE/1;HEAVY CHEVRON/1;SPARKLE;HEAVY/1;BALLOON-SPOKED ASTERISK;
     EIGHT TEARDROP-SPOKED PROPELLER/1;HEAVY/4;CROSS MARK;SHADOWED WHITE CIRCLE;
     NEGATIVE SQUARED CROSS MARK;LOWER RIGHT DROP-SHADOWED WHITE SQUARE;UPPER/4;
     LOWER RIGHT SHADOWED/2;UPPER/4;BLACK QUESTION MARK ORNAMENT;WHITE/3;1EXCLAMATION/2;
     BLACK DIAMOND MINUS WHITE X;HEAVY EXCLAMATION MARK SYMBOL;LIGHT VERTICAL BAR;MEDIUM/2;HEAVY/2;
     1SINGLE TURNED COMMA QUOTATION MARK ORNAMENT;2COMMA/3;1DOUBLE TURNED/4;2COMMA/3;1LOW SINGLE/4;
     2DOUBLE/4;CURVED STEM PARAGRAPH SIGN/1;HEAVY EXCLAMATION MARK/1;1HEART/3;1BLACK HEART;
     ROTATED HEAVY BLACK HEART BULLET;FLORAL HEART;ROTATED FLORAL HEART BULLET;
     MEDIUM LEFT PARENTHESIS ORNAMENT;1RIGHT/2;1FLATTENED LEFT/2;2RIGHT/2;
     1LEFT-POINTING ANGLE BRACKET/1;1RIGHT-POINTING/3;HEAVY LEFT-POINTING ANGLE QUOTATION MARK/1;
     1RIGHT-POINTING/4;1LEFT-POINTING ANGLE BRACKET/1;1RIGHT-POINTING/3;LIGHT LEFT TORTOISE SHELL/2;
     1RIGHT/4;MEDIUM LEFT CURLY/2;1RIGHT/3;DINGBAT NEGATIVE CIRCLED DIGIT ONE;4TWO;4THREE;4FOUR;
     4FIVE;4SIX;4SEVEN;4EIGHT;4NINE;3NUMBER TEN;1CIRCLED SANS-SERIF DIGIT ONE;4TWO;4THREE;4FOUR;
     4FIVE;4SIX;4SEVEN;4EIGHT;4NINE;3NUMBER TEN;1NEGATIVE CIRCLED SANS-SERIF DIGIT ONE;5TWO;5THREE;
     5FOUR;5FIVE;5SIX;5SEVEN;5EIGHT;5NINE;4NUMBER TEN;HEAVY WIDE-HEADED RIGHTWARDS ARROW;1PLUS SIGN;
     1MINUS/1;1DIVISION/1;1SOUTH EAST ARROW;1RIGHTWARDS/1;1NORTH EAST/1;DRAFTING POINT RIGHTWARDS/1;
     HEAVY ROUND-TIPPED/2;TRIANGLE-HEADED/2;HEAVY/3;DASHED/3;HEAVY/4;BLACK/2;
     THREE-D TOP-LIGHTED RIGHTWARDS ARROWHEAD;1BOTTOM-LIGHTED/2;BLACK/2;
     HEAVY BLACK CURVED DOWNWARDS AND RIGHTWARDS ARROW;3UPWARDS/3;SQUAT BLACK/2;
     HEAVY CONCAVE-POINTED/3;RIGHT-SHADED WHITE/2;LEFT-SHADED/3;BACK-TILTED SHADOWED/3;
     FRONT-TILTED/4;HEAVY LOWER RIGHT-SHADOWED/3;1UPPER/4;NOTCHED LOWER/4;CURLY LOOP;
     NOTCHED UPPER RIGHT-SHADOWED WHITE RIGHTWARDS ARROW;CIRCLED HEAVY/3;WHITE-FEATHERED/2;
     BLACK-FEATHERED SOUTH EAST/1;1RIGHTWARDS/1;1NORTH EAST/1;HEAVY BLACK-FEATHERED SOUTH/2;
     2RIGHTWARDS/1;2NORTH EAST/1;TEARDROP-BARBED RIGHTWARDS/1;HEAVY TEARDROP-SHANKED/2;
     WEDGE-TAILED/2;HEAVY/3;OPEN-OUTLINED/2;DOUBLE CURLY LOOP;THREE DIMENSIONAL ANGLE;
     WHITE TRIANGLE CONTAINING SMALL WHITE TRIANGLE;PERPENDICULAR;OPEN SUBSET;1SUPERSET;
     LEFT S-SHAPED BAG DELIMITER;RIGHT/3;OR WITH DOT INSIDE;REVERSE SOLIDUS PRECEDING SUBSET;
     SUPERSET PRECEDING SOLIDUS;VERTICAL BAR WITH HORIZONTAL STROKE;MATHEMATICAL RISING DIAGONAL;
     LONG DIVISION;MATHEMATICAL FALLING DIAGONAL;SQUARED LOGICAL AND;2OR;
     WHITE DIAMOND WITH CENTRED DOT;AND WITH/1;ELEMENT OF OPENING UPWARDS;
     LOWER RIGHT CORNER WITH DOT;UPPER LEFT/3;LEFT OUTER JOIN;RIGHT/2;FULL/2;LARGE UP TACK;1DOWN/1;
     LEFT AND RIGHT DOUBLE TURNSTILE;3TACK;1MULTIMAP;LONG RIGHT TACK;1LEFT/1;
     UP TACK WITH CIRCLE ABOVE;LOZENGE DIVIDED BY HORIZONTAL RULE;WHITE CONCAVE-SIDED DIAMOND;
     3WITH LEFTWARDS TICK;4RIGHTWARDS/1;1SQUARE WITH LEFTWARDS/1;3RIGHTWARDS/1;
     MATHEMATICAL LEFT WHITE SQUARE BRACKET;1RIGHT/3;1LEFT ANGLE/1;1RIGHT/2;1LEFT DOUBLE/2;1RIGHT/3;
     1LEFT WHITE TORTOISE SHELL/1;1RIGHT/4;1LEFT FLATTENED PARENTHESIS;1RIGHT/2;
     UPWARDS QUADRUPLE ARROW;DOWNWARDS/2;ANTICLOCKWISE GAPPED CIRCLE/1;CLOCKWISE/3;
     RIGHT ARROW WITH CIRCLED PLUS;LONG LEFTWARDS ARROW;1RIGHTWARDS/1;1LEFT RIGHT/1;
     1LEFTWARDS DOUBLE/1;1RIGHTWARDS/2;1LEFT RIGHT/2;1LEFTWARDS ARROW FROM BAR;1RIGHTWARDS/3;
     1LEFTWARDS DOUBLE/3;1RIGHTWARDS/4;2SQUIGGLE ARROW"),
   (0x2800, "BRAILLE PATTERN BLANK;2DOTS-1;+1;2DOTS-12;2DOTS-3;2DOTS-13;2DOTS-23;2DOTS-123;2DOTS-4;
     2DOTS-14;2DOTS-24;2DOTS-124;2DOTS-34;2DOTS-134;2DOTS-234;2DOTS-1234;2DOTS-5;2DOTS-15;2DOTS-25;
     2DOTS-125;2DOTS-35;2DOTS-135;2DOTS-235;2DOTS-1235;2DOTS-45;2DOTS-145;2DOTS-245;2DOTS-1245;
     2DOTS-345;2DOTS-1345;2DOTS-2345;2DOTS-12345;2DOTS-6;2DOTS-16;2DOTS-26;2DOTS-126;2DOTS-36;
     2DOTS-136;2DOTS-236;2DOTS-1236;2DOTS-46;2DOTS-146;2DOTS-246;2DOTS-1246;2DOTS-346;2DOTS-1346;
     2DOTS-2346;2DOTS-12346;2DOTS-56;2DOTS-156;2DOTS-256;2DOTS-1256;2DOTS-356;2DOTS-1356;2DOTS-2356;
     2DOTS-12356;2DOTS-456;2DOTS-1456;2DOTS-2456;2DOTS-12456;2DOTS-3456;2DOTS-13456;2DOTS-23456;
     2DOTS-123456;2DOTS-7;2DOTS-17;2DOTS-27;2DOTS-127;2DOTS-37;2DOTS-137;2DOTS-237;2DOTS-1237;
     2DOTS-47;2DOTS-147;2DOTS-247;2DOTS-1247;2DOTS-347;2DOTS-1347;2DOTS-2347;2DOTS-12347;2DOTS-57;
     2DOTS-157;2DOTS-257;2DOTS-1257;2DOTS-357;2DOTS-1357;2DOTS-2357;2DOTS-12357;2DOTS-457;
     2DOTS-1457;2DOTS-2457;2DOTS-12457;2DOTS-3457;2DOTS-13457;2DOTS-23457;2DOTS-123457;2DOTS-67;
     2DOTS-167;2DOTS-267;2DOTS-1267;2DOTS-367;2DOTS-1367;2DOTS-2367;2DOTS-12367;2DOTS-467;
     2DOTS-1467;2DOTS-2467;2DOTS-12467;2DOTS-3467;2DOTS-13467;2DOTS-23467;2DOTS-123467;2DOTS-567;
     2DOTS-1567;2DOTS-2567;2DOTS-12567;2DOTS-3567;2DOTS-13567;2DOTS-23567;2DOTS-123567;2DOTS-4567;
     2DOTS-14567;2DOTS-24567;2DOTS-124567;2DOTS-34567;2DOTS-134567;2DOTS-234567;2DOTS-1234567;
     2DOTS-8;2DOTS-18;2DOTS-28;2DOTS-128;2DOTS-38;2DOTS-138;2DOTS-238;2DOTS-1238;2DOTS-48;2DOTS-148;
     2DOTS-248;2DOTS-1248;2DOTS-348;2DOTS-1348;2DOTS-2348;2DOTS-12348;2DOTS-58;2DOTS-158;2DOTS-258;
     2DOTS-1258;2DOTS-358;2DOTS-1358;2DOTS-2358;2DOTS-12358;2DOTS-458;2DOTS-1458;2DOTS-2458;
     2DOTS-12458;2DOTS-3458;2DOTS-13458;2DOTS-23458;2DOTS-123458;2DOTS-68;2DOTS-168;2DOTS-268;
     2DOTS-1268;2DOTS-368;2DOTS-1368;2DOTS-2368;2DOTS-12368;2DOTS-468;2DOTS-1468;2DOTS-2468;
     2DOTS-12468;2DOTS-3468;2DOTS-13468;2DOTS-23468;2DOTS-123468;2DOTS-568;2DOTS-1568;2DOTS-2568;
     2DOTS-12568;2DOTS-3568;2DOTS-13568;2DOTS-23568;2DOTS-123568;2DOTS-4568;2DOTS-14568;2DOTS-24568;
     2DOTS-124568;2DOTS-34568;2DOTS-134568;2DOTS-234568;2DOTS-1234568;2DOTS-78;2DOTS-178;2DOTS-278;
     2DOTS-1278;2DOTS-378;2DOTS-1378;2DOTS-2378;2DOTS-12378;2DOTS-478;2DOTS-1478;2DOTS-2478;
     2DOTS-12478;2DOTS-3478;2DOTS-13478;2DOTS-23478;2DOTS-123478;2DOTS-578;2DOTS-1578;2DOTS-2578;
     2DOTS-12578;2DOTS-3578;2DOTS-13578;2DOTS-23578;2DOTS-123578;2DOTS-4578;2DOTS-14578;2DOTS-24578;
     2DOTS-124578;2DOTS-34578;2DOTS-134578;2DOTS-234578;2DOTS-1234578;2DOTS-678;2DOTS-1678;
     2DOTS-2678;2DOTS-12678;2DOTS-3678;2DOTS-13678;2DOTS-23678;2DOTS-123678;2DOTS-4678;2DOTS-14678;
     2DOTS-24678;2DOTS-124678;2DOTS-34678;2DOTS-134678;2DOTS-234678;2DOTS-1234678;2DOTS-5678;
     2DOTS-15678;2DOTS-25678;2DOTS-125678;2DOTS-35678;2DOTS-135678;2DOTS-235678;2DOTS-1235678;
     2DOTS-45678;2DOTS-145678;2DOTS-245678;2DOTS-1245678;2DOTS-345678;2DOTS-1345678;2DOTS-2345678;
     2DOTS-12345678"),
   (0x2900, "RIGHTWARDS TWO-HEADED ARROW WITH VERTICAL STROKE;4DOUBLE/2;
     LEFTWARDS DOUBLE ARROW WITH/2;RIGHTWARDS/5;LEFT RIGHT/5;RIGHTWARDS TWO-HEADED ARROW FROM BAR;
     LEFTWARDS DOUBLE/3;RIGHTWARDS/4;DOWNWARDS ARROW WITH HORIZONTAL STROKE;UPWARDS/4;1TRIPLE ARROW;
     DOWNWARDS/2;LEFTWARDS DOUBLE DASH/1;RIGHTWARDS/3;LEFTWARDS TRIPLE/2;RIGHTWARDS/3;1TWO-HEADED/3;
     1ARROW WITH DOTTED STEM;UPWARDS ARROW TO BAR;DOWNWARDS/3;
     RIGHTWARDS ARROW WITH TAIL WITH VERTICAL STROKE;5DOUBLE/2;1TWO-HEADED ARROW WITH TAIL;
     5WITH VERTICAL STROKE;6DOUBLE/2;LEFTWARDS ARROW-TAIL;RIGHTWARDS/1;LEFTWARDS DOUBLE/1;
     RIGHTWARDS/2;LEFTWARDS ARROW TO BLACK DIAMOND;RIGHTWARDS/4;LEFTWARDS ARROW FROM BAR/3;
     RIGHTWARDS/6;NORTH WEST AND SOUTH EAST ARROW;1EAST AND SOUTH WEST/1;1WEST ARROW WITH HOOK;
     1EAST/3;SOUTH/4;1WEST/3;NORTH WEST ARROW AND NORTH EAST ARROW;1EAST ARROW AND SOUTH/2;
     SOUTH EAST ARROW AND SOUTH WEST/1;1WEST ARROW AND NORTH/2;
     RISING DIAGONAL CROSSING FALLING DIAGONAL;FALLING DIAGONAL CROSSING RISING/1;
     SOUTH EAST ARROW CROSSING NORTH EAST ARROW;NORTH EAST ARROW CROSSING SOUTH/2;
     FALLING DIAGONAL CROSSING NORTH/2;RISING DIAGONAL CROSSING SOUTH/2;
     NORTH EAST ARROW CROSSING NORTH WEST/1;1WEST ARROW CROSSING NORTH EAST/1;
     WAVE ARROW POINTING DIRECTLY RIGHT;ARROW POINTING RIGHTWARDS THEN CURVING UPWARDS;5DOWNWARDS;
     2DOWNWARDS THEN CURVING LEFTWARDS;5RIGHTWARDS;RIGHT-SIDE ARC CLOCKWISE ARROW;
     LEFT-SIDE ARC ANTICLOCKWISE/1;TOP/3;BOTTOM/3;TOP ARC CLOCKWISE ARROW WITH MINUS;
     2ANTICLOCKWISE ARROW WITH PLUS;LOWER RIGHT SEMICIRCULAR CLOCKWISE ARROW;
     1LEFT SEMICIRCULAR ANTICLOCKWISE/1;ANTICLOCKWISE CLOSED CIRCLE/1;CLOCKWISE/3;
     RIGHTWARDS ARROW ABOVE SHORT LEFTWARDS/1;LEFTWARDS ARROW ABOVE SHORT RIGHTWARDS/1;
     SHORT RIGHTWARDS ARROW ABOVE LEFTWARDS/1;RIGHTWARDS ARROW WITH PLUS BELOW;LEFTWARDS/4;
     RIGHTWARDS ARROW THROUGH X;LEFT RIGHT ARROW THROUGH SMALL CIRCLE;
     UPWARDS TWO-HEADED ARROW FROM/2;LEFT BARB UP RIGHT BARB DOWN HARPOON;2DOWN RIGHT BARB UP/1;
     UP BARB RIGHT DOWN BARB LEFT/1;2LEFT DOWN BARB RIGHT/1;LEFT BARB UP RIGHT BARB UP/1;
     UP BARB RIGHT DOWN BARB RIGHT/1;LEFT BARB DOWN RIGHT BARB DOWN/1;UP BARB LEFT DOWN BARB LEFT/1;
     LEFTWARDS HARPOON WITH BARB UP TO BAR;RIGHTWARDS/6;UPWARDS HARPOON WITH BARB RIGHT/2;
     DOWNWARDS/6;LEFTWARDS HARPOON WITH BARB DOWN/2;RIGHTWARDS/6;UPWARDS HARPOON WITH BARB LEFT/2;
     DOWNWARDS/6;LEFTWARDS HARPOON WITH BARB UP FROM/1;RIGHTWARDS/6;
     UPWARDS HARPOON WITH BARB RIGHT/2;DOWNWARDS/6;LEFTWARDS HARPOON WITH BARB DOWN/2;RIGHTWARDS/6;
     UPWARDS HARPOON WITH BARB LEFT/2;DOWNWARDS/6;
     LEFTWARDS HARPOON WITH BARB UP ABOVE LEFTWARDS HARPOON WITH BARB DOWN;
     UPWARDS HARPOON WITH BARB LEFT BESIDE UPWARDS HARPOON WITH BARB RIGHT;
     RIGHTWARDS HARPOON WITH BARB UP ABOVE RIGHTWARDS HARPOON WITH BARB DOWN;
     DOWNWARDS HARPOON WITH BARB LEFT BESIDE DOWNWARDS HARPOON WITH BARB RIGHT;
     LEFTWARDS HARPOON WITH BARB UP ABOVE RIGHTWARDS HARPOON WITH BARB UP;
     4DOWN ABOVE RIGHTWARDS HARPOON WITH BARB DOWN;
     RIGHTWARDS HARPOON WITH BARB UP ABOVE LEFTWARDS HARPOON WITH BARB UP;
     4DOWN ABOVE LEFTWARDS HARPOON WITH BARB DOWN;LEFTWARDS HARPOON WITH BARB UP ABOVE LONG DASH;
     4DOWN BELOW/2;RIGHTWARDS HARPOON WITH BARB UP ABOVE/2;4DOWN BELOW/2;
     UPWARDS HARPOON WITH BARB LEFT BESIDE DOWNWARDS HARPOON WITH BARB RIGHT;
     DOWNWARDS HARPOON WITH BARB LEFT BESIDE UPWARDS/4;RIGHT DOUBLE ARROW WITH ROUNDED HEAD;
     EQUALS SIGN ABOVE RIGHTWARDS ARROW;TILDE OPERATOR/3;LEFTWARDS ARROW ABOVE TILDE OPERATOR;
     RIGHTWARDS/4;3ALMOST EQUAL TO;LESS-THAN ABOVE LEFTWARDS ARROW;
     LEFTWARDS ARROW THROUGH LESS-THAN;GREATER-THAN ABOVE RIGHTWARDS ARROW;SUBSET/3;
     LEFTWARDS ARROW THROUGH SUBSET;SUPERSET ABOVE LEFTWARDS ARROW;LEFT FISH TAIL;RIGHT/2;UP/2;
     DOWN/2;TRIPLE VERTICAL BAR DELIMITER;Z NOTATION SPOT;2TYPE COLON;LEFT WHITE CURLY BRACKET;
     RIGHT/3;LEFT WHITE PARENTHESIS;RIGHT/2;Z NOTATION LEFT IMAGE BRACKET;2RIGHT/2;2LEFT BINDING/1;
     2RIGHT/2;LEFT SQUARE BRACKET WITH UNDERBAR;RIGHT/4;LEFT SQUARE BRACKET WITH TICK IN TOP CORNER;
     RIGHT SQUARE BRACKET WITH TICK IN BOTTOM/1;LEFT/7;RIGHT SQUARE BRACKET WITH TICK IN TOP/1;
     LEFT ANGLE BRACKET WITH DOT;RIGHT/4;LEFT ARC LESS-THAN BRACKET;RIGHT ARC GREATER-THAN/1;
     DOUBLE LEFT/3;1RIGHT ARC LESS-THAN/1;LEFT BLACK TORTOISE SHELL/1;RIGHT/4;DOTTED FENCE;
     VERTICAL ZIGZAG LINE;MEASURED ANGLE OPENING LEFT;RIGHT ANGLE VARIANT WITH SQUARE;
     MEASURED RIGHT ANGLE WITH DOT;ANGLE WITH S INSIDE;ACUTE ANGLE;SPHERICAL ANGLE OPENING LEFT;3UP;
     TURNED ANGLE;REVERSED/1;ANGLE WITH UNDERBAR;REVERSED/3;OBLIQUE ANGLE OPENING UP;3DOWN;
     MEASURED ANGLE WITH OPEN ARM ENDING IN ARROW POINTING UP AND RIGHT;9UP AND LEFT;
     9DOWN AND RIGHT;9DOWN AND LEFT;9RIGHT AND UP;9LEFT/2;9RIGHT AND DOWN;9LEFT/2;
     REVERSED EMPTY SET;EMPTY SET WITH OVERBAR;3SMALL CIRCLE ABOVE;3RIGHT ARROW/1;3LEFT/2;
     CIRCLE WITH HORIZONTAL BAR;CIRCLED VERTICAL/1;1PARALLEL;1REVERSE SOLIDUS;1PERPENDICULAR;
     CIRCLE DIVIDED BY HORIZONTAL BAR AND TOP HALF DIVIDED BY VERTICAL BAR;1WITH SUPERIMPOSED X;
     CIRCLED ANTICLOCKWISE-ROTATED DIVISION SIGN;UP ARROW THROUGH CIRCLE;CIRCLED WHITE BULLET;
     1BULLET;1LESS-THAN;1GREATER-THAN;CIRCLE WITH SMALL CIRCLE TO THE RIGHT;
     2TWO HORIZONTAL STROKES/3;SQUARED RISING DIAGONAL SLASH;1FALLING/2;1ASTERISK;1SMALL CIRCLE;
     1SQUARE;TWO JOINED SQUARES;TRIANGLE WITH DOT ABOVE;2UNDERBAR;S IN TRIANGLE;
     TRIANGLE WITH SERIFS AT BOTTOM;RIGHT TRIANGLE ABOVE LEFT TRIANGLE;
     LEFT TRIANGLE BESIDE VERTICAL BAR;VERTICAL BAR BESIDE RIGHT TRIANGLE;
     BOWTIE WITH LEFT HALF BLACK;2RIGHT/2;BLACK BOWTIE;TIMES WITH LEFT HALF BLACK;2RIGHT/2;
     WHITE HOURGLASS;BLACK/1;LEFT WIGGLY FENCE;RIGHT/2;LEFT DOUBLE/2;RIGHT/3;INCOMPLETE INFINITY;
     TIE OVER/1;INFINITY NEGATED WITH VERTICAL BAR;DOUBLE-ENDED MULTIMAP;
     SQUARE WITH CONTOURED OUTLINE;INCREASES AS;SHUFFLE PRODUCT;EQUALS SIGN AND SLANTED PARALLEL;
     5WITH TILDE ABOVE;IDENTICAL TO AND SLANTED PARALLEL;GLEICH STARK;THERMODYNAMIC;
     DOWN-POINTING TRIANGLE WITH LEFT HALF BLACK;3RIGHT/2;BLACK DIAMOND WITH DOWN ARROW;1LOZENGE;
     WHITE CIRCLE WITH DOWN ARROW;BLACK/4;ERROR-BARRED WHITE SQUARE;1BLACK/1;1WHITE DIAMOND;
     1BLACK/1;1WHITE CIRCLE;1BLACK/1;RULE-DELAYED;REVERSE SOLIDUS OPERATOR;SOLIDUS WITH OVERBAR;
     REVERSE SOLIDUS WITH HORIZONTAL STROKE;BIG SOLIDUS;1REVERSE/1;DOUBLE PLUS;TRIPLE/1;
     LEFT-POINTING CURVED ANGLE BRACKET;RIGHT-POINTING/3;TINY;MINY"),
   (0x2A00, "N-ARY CIRCLED DOT OPERATOR;2PLUS/1;2TIMES/1;1UNION OPERATOR WITH DOT;4PLUS;
     1SQUARE INTERSECTION OPERATOR;2UNION/1;TWO LOGICAL AND/1;2OR/1;N-ARY TIMES/1;MODULO TWO SUM;
     SUMMATION WITH INTEGRAL;QUADRUPLE INTEGRAL OPERATOR;FINITE PART INTEGRAL;
     INTEGRAL WITH DOUBLE STROKE;1AVERAGE WITH SLASH;CIRCULATION FUNCTION;ANTICLOCKWISE INTEGRATION;
     LINE INTEGRATION WITH RECTANGULAR PATH AROUND POLE;3SEMICIRCULAR/3;2NOT INCLUDING THE/1;
     INTEGRAL AROUND A POINT OPERATOR;QUATERNION INTEGRAL/1;INTEGRAL WITH LEFTWARDS ARROW WITH HOOK;
     2TIMES SIGN;2INTERSECTION;2UNION;2OVERBAR;2UNDERBAR;JOIN;LARGE LEFT TRIANGLE OPERATOR;
     Z NOTATION SCHEMA COMPOSITION;3PIPING;3PROJECTION;PLUS SIGN WITH SMALL CIRCLE ABOVE;
     3CIRCUMFLEX ACCENT/1;3TILDE/1;3DOT BELOW;3TILDE/1;3SUBSCRIPT TWO;3BLACK TRIANGLE;
     MINUS SIGN WITH COMMA ABOVE;3DOT BELOW;3FALLING DOTS;3RISING/1;PLUS SIGN IN LEFT HALF CIRCLE;
     3RIGHT/2;VECTOR OR CROSS PRODUCT;MULTIPLICATION SIGN WITH DOT ABOVE;3UNDERBAR;
     SEMIDIRECT PRODUCT WITH BOTTOM CLOSED;SMASH PRODUCT;MULTIPLICATION SIGN IN LEFT HALF CIRCLE;
     3RIGHT/2;CIRCLED MULTIPLICATION SIGN WITH CIRCUMFLEX ACCENT;
     MULTIPLICATION SIGN IN DOUBLE CIRCLE;CIRCLED DIVISION SIGN;PLUS SIGN IN TRIANGLE;MINUS/3;
     MULTIPLICATION/3;INTERIOR PRODUCT;RIGHTHAND/2;Z NOTATION RELATIONAL COMPOSITION;
     AMALGAMATION OR COPRODUCT;INTERSECTION WITH DOT;UNION WITH MINUS SIGN;2OVERBAR;INTERSECTION/2;
     2LOGICAL AND;UNION WITH LOGICAL OR;1ABOVE INTERSECTION;INTERSECTION ABOVE UNION;
     UNION ABOVE BAR ABOVE INTERSECTION;INTERSECTION ABOVE BAR ABOVE UNION;
     UNION BESIDE AND JOINED WITH/1;INTERSECTION BESIDE AND JOINED WITH INTERSECTION;
     CLOSED UNION WITH SERIFS;1INTERSECTION/2;DOUBLE SQUARE INTERSECTION;2UNION;
     CLOSED UNION WITH SERIFS AND SMASH PRODUCT;LOGICAL AND WITH DOT ABOVE;1OR/3;DOUBLE LOGICAL AND;
     2OR;TWO INTERSECTING LOGICAL AND;3OR;SLOPING LARGE/1;2AND;LOGICAL OR OVERLAPPING LOGICAL/1;
     1AND WITH MIDDLE STEM;1OR/3;1AND WITH HORIZONTAL DASH;1OR/3;1AND WITH DOUBLE OVERBAR;3UNDERBAR;
     3DOUBLE/1;SMALL VEE WITH/1;LOGICAL OR WITH DOUBLE OVERBAR;4UNDERBAR;
     Z NOTATION DOMAIN ANTIRESTRICTION;2RANGE/1;EQUALS SIGN WITH DOT BELOW;IDENTICAL WITH DOT ABOVE;
     TRIPLE HORIZONTAL BAR WITH DOUBLE VERTICAL STROKE;4TRIPLE/2;TILDE OPERATOR WITH DOT ABOVE;
     3RISING DOTS;SIMILAR MINUS SIMILAR;CONGRUENT WITH DOT ABOVE;EQUALS WITH ASTERISK;
     ALMOST EQUAL TO WITH CIRCUMFLEX ACCENT;APPROXIMATELY EQUAL OR EQUAL TO;
     EQUALS SIGN ABOVE PLUS SIGN;PLUS SIGN ABOVE EQUALS/1;EQUALS SIGN ABOVE TILDE OPERATOR;
     DOUBLE COLON EQUAL;TWO CONSECUTIVE EQUALS SIGNS;THREE/3;
     EQUALS SIGN WITH TWO DOTS ABOVE AND TWO DOTS BELOW;EQUIVALENT WITH FOUR DOTS ABOVE;
     LESS-THAN WITH CIRCLE INSIDE;GREATER-THAN/3;LESS-THAN WITH QUESTION MARK ABOVE;GREATER-THAN/4;
     LESS-THAN OR SLANTED EQUAL TO;GREATER-THAN/4;LESS-THAN OR SLANTED EQUAL TO WITH DOT INSIDE;
     GREATER-THAN/7;LESS-THAN OR SLANTED EQUAL TO WITH DOT ABOVE;GREATER-THAN/7;
     LESS-THAN OR SLANTED EQUAL TO WITH DOT ABOVE RIGHT;
     GREATER-THAN OR SLANTED EQUAL TO WITH DOT ABOVE LEFT;LESS-THAN OR APPROXIMATE;GREATER-THAN/2;
     LESS-THAN AND SINGLE-LINE NOT EQUAL TO;GREATER-THAN/5;LESS-THAN AND NOT APPROXIMATE;
     GREATER-THAN/3;LESS-THAN ABOVE DOUBLE-LINE EQUAL ABOVE GREATER-THAN;
     GREATER-THAN ABOVE DOUBLE-LINE EQUAL ABOVE LESS-THAN;LESS-THAN ABOVE SIMILAR OR EQUAL;
     GREATER-THAN/4;LESS-THAN ABOVE SIMILAR ABOVE GREATER-THAN;
     GREATER-THAN ABOVE SIMILAR ABOVE LESS-THAN;
     LESS-THAN ABOVE GREATER-THAN ABOVE DOUBLE-LINE EQUAL;GREATER-THAN ABOVE LESS-THAN/3;
     LESS-THAN ABOVE SLANTED EQUAL ABOVE GREATER-THAN ABOVE SLANTED/1;
     GREATER-THAN ABOVE SLANTED EQUAL ABOVE LESS-THAN/3;SLANTED EQUAL TO OR LESS-THAN;4GREATER-THAN;
     4LESS-THAN WITH DOT INSIDE;4GREATER-THAN/3;DOUBLE-LINE EQUAL TO OR LESS-THAN;4GREATER-THAN;
     1SLANTED EQUAL TO OR LESS-THAN;5GREATER-THAN;SIMILAR OR LESS-THAN;2GREATER-THAN;
     1ABOVE LESS-THAN ABOVE EQUALS SIGN;2GREATER-THAN/3;DOUBLE NESTED LESS-THAN;2GREATER-THAN;
     2LESS-THAN WITH UNDERBAR;GREATER-THAN OVERLAPPING LESS-THAN;1BESIDE/1;
     LESS-THAN CLOSED BY CURVE;GREATER-THAN/3;LESS-THAN CLOSED BY CURVE ABOVE SLANTED EQUAL;
     GREATER-THAN/6;SMALLER THAN;LARGER/1;SMALLER THAN OR EQUAL TO;LARGER/4;
     EQUALS SIGN WITH BUMPY ABOVE;PRECEDES ABOVE SINGLE-LINE EQUALS SIGN;SUCCEEDS/4;
     PRECEDES ABOVE SINGLE-LINE NOT EQUAL TO;SUCCEEDS/5;PRECEDES ABOVE EQUALS SIGN;SUCCEEDS/3;
     PRECEDES ABOVE NOT EQUAL TO;SUCCEEDS/4;PRECEDES ABOVE ALMOST/2;SUCCEEDS/4;PRECEDES ABOVE NOT/3;
     SUCCEEDS/5;DOUBLE PRECEDES;1SUCCEEDS;SUBSET WITH DOT;SUPERSET/2;SUBSET WITH PLUS SIGN BELOW;
     SUPERSET/4;SUBSET WITH MULTIPLICATION/2;SUPERSET/4;SUBSET OF OR EQUAL TO WITH DOT ABOVE;
     SUPERSET/7;SUBSET OF ABOVE EQUALS SIGN;SUPERSET/4;SUBSET OF ABOVE TILDE OPERATOR;SUPERSET/4;
     SUBSET OF ABOVE ALMOST EQUAL TO;SUPERSET/5;SUBSET OF ABOVE NOT/2;SUPERSET/5;
     SQUARE LEFT OPEN BOX OPERATOR;1RIGHT/3;CLOSED SUBSET;1SUPERSET;1SUBSET OR EQUAL TO;1SUPERSET/3;
     SUBSET ABOVE SUPERSET;SUPERSET ABOVE SUBSET;SUBSET/2;SUPERSET ABOVE SUPERSET;1BESIDE SUBSET;
     2AND JOINED BY DASH WITH/1;ELEMENT OF OPENING DOWNWARDS;PITCHFORK WITH TEE TOP;
     TRANSVERSAL INTERSECTION;FORKING;NONFORKING;SHORT LEFT TACK;1DOWN/1;1UP/1;PERPENDICULAR WITH S;
     VERTICAL BAR TRIPLE RIGHT TURNSTILE;DOUBLE VERTICAL BAR LEFT/1;VERTICAL BAR DOUBLE/2;DOUBLE/5;
     LONG DASH FROM LEFT MEMBER OF DOUBLE VERTICAL;SHORT DOWN TACK WITH OVERBAR;
     1UP TACK WITH UNDERBAR;3ABOVE SHORT DOWN TACK;DOUBLE/2;1UP/1;1STROKE NOT SIGN;REVERSED/4;
     DOES NOT DIVIDE WITH REVERSED NEGATION SLASH;VERTICAL LINE WITH CIRCLE ABOVE;4BELOW;
     DOWN TACK/3;PARALLEL WITH HORIZONTAL STROKE;2TILDE OPERATOR;
     TRIPLE VERTICAL BAR BINARY RELATION;3WITH HORIZONTAL STROKE;1COLON OPERATOR;1NESTED LESS-THAN;
     2GREATER-THAN;DOUBLE-LINE SLANTED LESS-THAN OR EQUAL TO;2GREATER-THAN/3;
     TRIPLE SOLIDUS BINARY RELATION;LARGE TRIPLE VERTICAL BAR OPERATOR;DOUBLE SOLIDUS/1;
     WHITE VERTICAL BAR;N-ARY/3"),
   (0x2B00, "NORTH EAST WHITE ARROW;1WEST/2;SOUTH EAST/2;1WEST/2;LEFT RIGHT/2;LEFTWARDS BLACK/1;
     UPWARDS/2;DOWNWARDS/2;NORTH EAST/2;1WEST/2;SOUTH EAST/2;1WEST/2;LEFT RIGHT/2;UP DOWN/2;
     RIGHTWARDS ARROW WITH TIP DOWNWARDS;4UPWARDS;LEFTWARDS ARROW WITH TIP DOWNWARDS;4UPWARDS;
     SQUARE WITH TOP HALF BLACK;2BOTTOM/2;2UPPER RIGHT DIAGONAL/2;2LOWER LEFT/3;DIAMOND WITH LEFT/2;
     2RIGHT/2;2TOP/2;2BOTTOM/2;DOTTED SQUARE;BLACK LARGE/1;WHITE/2;BLACK VERY SMALL/1;WHITE/3;
     BLACK PENTAGON;WHITE/1;1HEXAGON;BLACK/1;HORIZONTAL/2;BLACK LARGE CIRCLE;1MEDIUM DIAMOND;
     WHITE/2;BLACK MEDIUM LOZENGE;WHITE/2;BLACK SMALL DIAMOND;2LOZENGE;WHITE/2;
     BLACK HORIZONTAL ELLIPSE;WHITE/2;BLACK VERTICAL/1;WHITE/2;LEFT ARROW WITH SMALL CIRCLE;
     THREE LEFTWARDS ARROWS;LEFT ARROW WITH CIRCLED PLUS;LONG LEFTWARDS SQUIGGLE ARROW;
     LEFTWARDS TWO-HEADED ARROW WITH VERTICAL STROKE;4DOUBLE/2;3FROM BAR;2TRIPLE DASH ARROW;
     1ARROW WITH DOTTED STEM;3TAIL WITH VERTICAL STROKE;5DOUBLE/2;1TWO-HEADED ARROW WITH TAIL;
     5WITH VERTICAL STROKE;6DOUBLE/2;1ARROW THROUGH X;WAVE ARROW POINTING DIRECTLY LEFT;
     EQUALS SIGN ABOVE LEFTWARDS ARROW;REVERSE TILDE OPERATOR/3;
     LEFTWARDS ARROW ABOVE REVERSE ALMOST EQUAL TO;RIGHTWARDS ARROW THROUGH GREATER-THAN;3SUPERSET;
     LEFTWARDS QUADRUPLE ARROW;RIGHTWARDS/2;REVERSE TILDE OPERATOR ABOVE RIGHTWARDS/1;
     RIGHTWARDS ARROW ABOVE REVERSE ALMOST EQUAL TO;TILDE OPERATOR ABOVE LEFTWARDS ARROW;
     LEFTWARDS ARROW ABOVE ALMOST EQUAL TO;3REVERSE TILDE OPERATOR;RIGHTWARDS/5;
     DOWNWARDS TRIANGLE-HEADED ZIGZAG ARROW;SHORT SLANTED NORTH/1;1BACKSLANTED SOUTH/1;
     WHITE MEDIUM STAR;BLACK SMALL/1;WHITE/2;BLACK RIGHT-POINTING PENTAGON;WHITE/2;
     HEAVY LARGE CIRCLE;1OVAL WITH OVAL INSIDE;1CIRCLE WITH CIRCLE/1;1CIRCLE;1CIRCLED SALTIRE;
     SLANTED NORTH ARROW WITH HOOKED HEAD;BACKSLANTED SOUTH ARROW WITH HOOKED TAIL;
     SLANTED NORTH ARROW WITH HORIZONTAL/1;BACKSLANTED SOUTH/4;
     BENT ARROW POINTING DOWNWARDS THEN NORTH EAST;SHORT/7;LEFTWARDS TRIANGLE-HEADED ARROW;
     UPWARDS/2;RIGHTWARDS/2;DOWNWARDS/2;LEFT RIGHT/2;UP DOWN/2;NORTH WEST/2;1EAST/2;SOUTH/3;1WEST/2;
     LEFTWARDS TRIANGLE-HEADED DASHED/1;UPWARDS/3;RIGHTWARDS/3;DOWNWARDS/3;
     CLOCKWISE TRIANGLE-HEADED OPEN CIRCLE/1;ANTICLOCKWISE/4;LEFTWARDS TRIANGLE-HEADED ARROW TO BAR;
     UPWARDS/4;RIGHTWARDS/4;DOWNWARDS/4"),
   (0x2B76, "NORTH WEST TRIANGLE-HEADED ARROW TO BAR;1EAST/4;SOUTH/5;1WEST/4;
     LEFTWARDS TRIANGLE-HEADED ARROW WITH DOUBLE HORIZONTAL STROKE;UPWARDS/6;RIGHTWARDS/6;
     DOWNWARDS/6;HORIZONTAL TAB KEY;VERTICAL/2;
     LEFTWARDS TRIANGLE-HEADED ARROW OVER RIGHTWARDS TRIANGLE-HEADED ARROW;
     UPWARDS TRIANGLE-HEADED ARROW LEFTWARDS OF DOWNWARDS/2;
     RIGHTWARDS TRIANGLE-HEADED ARROW OVER LEFTWARDS/2;
     DOWNWARDS TRIANGLE-HEADED ARROW LEFTWARDS OF UPWARDS/2;LEFTWARDS TRIANGLE-HEADED PAIRED ARROWS;
     UPWARDS/3;RIGHTWARDS/3;DOWNWARDS/3;LEFTWARDS BLACK CIRCLED WHITE ARROW;UPWARDS/4;RIGHTWARDS/4;
     DOWNWARDS/4;ANTICLOCKWISE TRIANGLE-HEADED RIGHT U-SHAPED/1;2BOTTOM/2;2LEFT/2;2TOP/2;
     RETURN LEFT;1RIGHT;NEWLINE LEFT;1RIGHT;FOUR CORNER ARROWS CIRCLING ANTICLOCKWISE;
     RIGHTWARDS BLACK ARROW"),
   (0x2B97, "SYMBOL FOR TYPE A ELECTRONICS;THREE-D TOP-LIGHTED LEFTWARDS EQUILATERAL ARROWHEAD;
     1RIGHT-LIGHTED UPWARDS/2;1TOP-LIGHTED RIGHTWARDS/2;1LEFT-LIGHTED DOWNWARDS/2;BLACK LEFTWARDS/2;
     1UPWARDS/2;1RIGHTWARDS/2;1DOWNWARDS/2;DOWNWARDS TRIANGLE-HEADED ARROW WITH LONG TIP LEFTWARDS;
     6RIGHTWARDS;UPWARDS TRIANGLE-HEADED ARROW WITH LONG TIP LEFTWARDS;6RIGHTWARDS;
     LEFTWARDS TRIANGLE-HEADED ARROW WITH LONG TIP UPWARDS;RIGHTWARDS/6;
     LEFTWARDS TRIANGLE-HEADED ARROW WITH LONG TIP DOWNWARDS;RIGHTWARDS/6;
     BLACK CURVED DOWNWARDS AND LEFTWARDS ARROW;4RIGHTWARDS/1;2UPWARDS AND LEFTWARDS/1;
     4RIGHTWARDS/1;2LEFTWARDS AND UPWARDS/1;2RIGHTWARDS/3;2LEFTWARDS AND DOWNWARDS/1;2RIGHTWARDS/3;
     RIBBON ARROW DOWN LEFT;3RIGHT;2UP LEFT;3RIGHT;2LEFT UP;2RIGHT/1;2LEFT DOWN;2RIGHT/1;
     UPWARDS WHITE ARROW FROM BAR WITH HORIZONTAL BAR;UP ARROWHEAD IN A RECTANGLE BOX;
     OVERLAPPING WHITE SQUARES;2AND BLACK/1;1BLACK/1;BALLOT BOX WITH LIGHT X;CIRCLED X;1BOLD X;
     BLACK SQUARE CENTRED;1DIAMOND/1;TURNED BLACK PENTAGON;HORIZONTAL BLACK OCTAGON;BLACK/1;
     1MEDIUM UP-POINTING TRIANGLE CENTRED;2DOWN-POINTING/2;2LEFT-POINTING/2;2RIGHT-POINTING/2;
     NEPTUNE FORM TWO;TOP HALF BLACK CIRCLE;BOTTOM/3;LIGHT FOUR POINTED BLACK CUSP;ROTATED/5;
     WHITE FOUR POINTED/1;ROTATED/4;SQUARE POSITION INDICATOR;UNCERTAINTY SIGN;GROUP MARK;
     PLUTO FORM TWO;2THREE;2FOUR;2FIVE;TRANSPLUTO;PROSERPINA;ASTRAEA;HYGIEA;PHOLUS;NESSUS;
     WHITE MOON SELENA;BLACK DIAMOND ON CROSS;TRUE LIGHT MOON ARTA;CUPIDO;HADES;ZEUS;KRONOS;APOLLON;
     ADMETOS;VULCANUS;POSEIDON;LEFT HALF BLACK STAR;RIGHT/3;STAR WITH LEFT HALF BLACK;2RIGHT/2;
     LEFTWARDS TWO-HEADED ARROW WITH TRIANGLE ARROWHEADS;UPWARDS/5;RIGHTWARDS/5;DOWNWARDS/5;
     ERIS FORM ONE;2TWO;SEDNA;RUSSIAN ASTROLOGICAL SYMBOL VIGINTILE;3NOVILE;3QUINTILE;3BINOVILE;
     3SENTAGON;3TREDECILE;EQUALS SIGN WITH INFINITY BELOW;UNITED SYMBOL;SEPARATED/1;DOUBLED/1;
     PASSED/1;REVERSED RIGHT ANGLE;HELLSCHREIBER PAUSE SYMBOL"),
   (0x2C00, "GLAGOLITIC CAPITAL LETTER AZU;3BUKY;3VEDE;3GLAGOLI;3DOBRO;3YESTU;3ZHIVETE;3DZELO;
     3ZEMLJA;3IZHE;3INITIAL/1;3I;3DJERVI;3KAKO;3LJUDIJE;3MYSLITE;3NASHI;3ONU;3POKOJI;3RITSI;3SLOVO;
     3TVRIDO;3UKU;3FRITU;3HERU;3OTU;3PE;3SHTA;3TSI;3CHRIVI;3SHA;3YERU;3YERI;3YATI;3SPIDERY HA;3YU;
     3SMALL YUS;5WITH TAIL;3YO;3IOTATED SMALL YUS;3BIG/1;3IOTATED/2;3FITA;3IZHITSA;3SHTAPIC;
     3TROKUTASTI A;3LATINATE MYSLITE;3CAUDATE CHRIVI;1SMALL LETTER AZU;3BUKY;3VEDE;3GLAGOLI;3DOBRO;
     3YESTU;3ZHIVETE;3DZELO;3ZEMLJA;3IZHE;3INITIAL/1;3I;3DJERVI;3KAKO;3LJUDIJE;3MYSLITE;3NASHI;3ONU;
     3POKOJI;3RITSI;3SLOVO;3TVRIDO;3UKU;3FRITU;3HERU;3OTU;3PE;3SHTA;3TSI;3CHRIVI;3SHA;3YERU;3YERI;
     3YATI;3SPIDERY HA;3YU;3SMALL YUS;5WITH TAIL;3YO;3IOTATED SMALL YUS;3BIG/1;3IOTATED/2;3FITA;
     3IZHITSA;3SHTAPIC;3TROKUTASTI A;3LATINATE MYSLITE;3CAUDATE CHRIVI;
     LATIN CAPITAL LETTER L WITH DOUBLE BAR;1SMALL/5;1CAPITAL LETTER L WITH MIDDLE TILDE;
     3P WITH STROKE;3R WITH TAIL;1SMALL LETTER A WITH STROKE;3T WITH DIAGONAL/1;
     1CAPITAL LETTER H WITH DESCENDER;1SMALL/4;1CAPITAL LETTER K/2;1SMALL/4;1CAPITAL LETTER Z/2;
     1SMALL/4;1CAPITAL LETTER ALPHA;3M WITH HOOK;3TURNED A;4ALPHA;1SMALL LETTER V WITH RIGHT HOOK;
     1CAPITAL LETTER W WITH/1;1SMALL/4;3V WITH CURL;1CAPITAL LETTER HALF H;1SMALL/3;3TAILLESS PHI;
     3E WITH NOTCH;3TURNED R WITH TAIL;3O WITH LOW RING INSIDE;1LETTER SMALL CAPITAL TURNED E;
     1SUBSCRIPT SMALL LETTER J;MODIFIER LETTER CAPITAL V;LATIN CAPITAL LETTER S WITH SWASH TAIL;
     3Z/3;COPTIC CAPITAL LETTER ALFA;1SMALL/2;1CAPITAL LETTER VIDA;1SMALL/2;1CAPITAL LETTER GAMMA;
     1SMALL/2;1CAPITAL LETTER DALDA;1SMALL/2;1CAPITAL LETTER EIE;1SMALL/2;1CAPITAL LETTER SOU;
     1SMALL/2;1CAPITAL LETTER ZATA;1SMALL/2;1CAPITAL LETTER HATE;1SMALL/2;1CAPITAL LETTER THETHE;
     1SMALL/2;1CAPITAL LETTER IAUDA;1SMALL/2;1CAPITAL LETTER KAPA;1SMALL/2;1CAPITAL LETTER LAULA;
     1SMALL/2;1CAPITAL LETTER MI;1SMALL/2;1CAPITAL LETTER NI;1SMALL/2;1CAPITAL LETTER KSI;1SMALL/2;
     1CAPITAL LETTER O;1SMALL/2;1CAPITAL LETTER PI;1SMALL/2;1CAPITAL LETTER RO;1SMALL/2;
     1CAPITAL LETTER SIMA;1SMALL/2;1CAPITAL LETTER TAU;1SMALL/2;1CAPITAL LETTER UA;1SMALL/2;
     1CAPITAL LETTER FI;1SMALL/2;1CAPITAL LETTER KHI;1SMALL/2;1CAPITAL LETTER PSI;1SMALL/2;
     1CAPITAL LETTER OOU;1SMALL/2;1CAPITAL LETTER DIALECT-P ALEF;1SMALL/3;
     1CAPITAL LETTER OLD COPTIC AIN;1SMALL/4;1CAPITAL LETTER CRYPTOGRAMMIC EIE;1SMALL/3;
     1CAPITAL LETTER DIALECT-P KAPA;1SMALL/3;1CAPITAL LETTER DIALECT-P NI;1SMALL/3;
     1CAPITAL LETTER CRYPTOGRAMMIC/1;1SMALL/3;1CAPITAL LETTER OLD COPTIC OOU;1SMALL/4;
     1CAPITAL LETTER SAMPI;1SMALL/2;1CAPITAL LETTER CROSSED SHEI;1SMALL/3;
     1CAPITAL LETTER OLD COPTIC/1;1SMALL/4;1CAPITAL LETTER OLD COPTIC ESH;1SMALL/4;
     1CAPITAL LETTER AKHMIMIC KHEI;1SMALL/3;1CAPITAL LETTER DIALECT-P HORI;1SMALL/3;
     1CAPITAL LETTER OLD COPTIC/1;1SMALL/4;1CAPITAL LETTER OLD COPTIC HA;1SMALL/4;
     1CAPITAL LETTER L-SHAPED/1;1SMALL/3;1CAPITAL LETTER OLD COPTIC HEI;1SMALL/4;
     1CAPITAL LETTER OLD COPTIC HAT;1SMALL/4;1CAPITAL LETTER OLD COPTIC GANGIA;1SMALL/4;
     1CAPITAL LETTER OLD COPTIC DJA;1SMALL/4;1CAPITAL LETTER OLD COPTIC SHIMA;1SMALL/4;
     1CAPITAL LETTER OLD NUBIAN/1;1SMALL/4;1CAPITAL LETTER OLD NUBIAN NGI;1SMALL/4;
     1CAPITAL LETTER OLD NUBIAN NYI;1SMALL/4;1CAPITAL LETTER OLD NUBIAN WAU;1SMALL/4;1SYMBOL KAI;
     2MI RO;2PI/1;2STAUROS;2TAU RO;2KHI/1;2SHIMA SIMA;1CAPITAL LETTER CRYPTOGRAMMIC SHEI;1SMALL/3;
     1CAPITAL LETTER CRYPTOGRAMMIC GANGIA;1SMALL/3;1COMBINING NI ABOVE;2SPIRITUS ASPER;3LENIS;
     1CAPITAL LETTER BOHAIRIC KHEI;1SMALL/3"),
   (0x2CF9, "COPTIC OLD NUBIAN FULL STOP;3DIRECT QUESTION MARK;3INDIRECT/2;3VERSE DIVIDER;
     1FRACTION ONE HALF;1FULL STOP;1MORPHOLOGICAL DIVIDER"),
   (0x2D00, "GEORGIAN SMALL LETTER AN;3BAN;3GAN;3DON;3EN;3VIN;3ZEN;3TAN;3IN;3KAN;3LAS;3MAN;3NAR;3ON;
     3PAR;3ZHAR;3RAE;3SAN;3TAR;3UN;3PHAR;3KHAR;3GHAN;3QAR;3SHIN;3CHIN;3CAN;3JIL;3CIL;3CHAR;3XAN;
     3JHAN;3HAE;3HE;3HIE;3WE;3HAR;3HOE"),
   (0x2D27, "GEORGIAN SMALL LETTER YN"),
   (0x2D2D, "GEORGIAN SMALL LETTER AEN"),
   (0x2D30, "TIFINAGH LETTER YA;2YAB;2YABH;2YAG;2YAGHH;2BERBER ACADEMY YAJ;2YAJ;2YAD;2YADH;2YADD;
     2YADDH;2YEY;2YAF;2YAK;2TUAREG/1;2YAKHH;2YAH;2BERBER ACADEMY/1;2TUAREG/1;2YAHH;2YAA;2YAKH;
     2TUAREG/1;2YAQ;2TUAREG/1;2YI;2YAZH;2AHAGGAR/1;2TUAREG/1;2YAL;+2;2TUAREG YAGN;3YANG;2YAP;2YU;
     2YAR;2YARR;2YAGH;2TUAREG/1;2AYER/1;2YAS;2YASS;2YASH;2YAT;2YATH;2YACH;2YATT;2YAV;+1;2YAY;+1;
     2TAWELLEMET/1;2YAZZ;2YE;2YO"),
   (0x2D6F, "TIFINAGH MODIFIER LETTER LABIALIZATION MARK;1SEPARATOR/1"),
   (0x2D7F, "TIFINAGH CONSONANT JOINER;ETHIOPIC SYLLABLE LOA;2MOA;2ROA;2SOA;2SHOA;2BOA;2TOA;2COA;
     2NOA;2NYOA;2GLOTTAL OA;2ZOA;2DOA;2DDOA;2JOA;2THOA;2CHOA;2PHOA;2POA;2GGWA;2GGWI;2GGWEE;2GGWE"),
   (0x2DA0, "ETHIOPIC SYLLABLE SSA;2SSU;2SSI;2SSAA;2SSEE;2SSE;2SSO"),
   (0x2DA8, "ETHIOPIC SYLLABLE CCA;2CCU;2CCI;2CCAA;2CCEE;2CCE;2CCO"),
   (0x2DB0, "ETHIOPIC SYLLABLE ZZA;2ZZU;2ZZI;2ZZAA;2ZZEE;2ZZE;2ZZO"),
   (0x2DB8, "ETHIOPIC SYLLABLE CCHA;2CCHU;2CCHI;2CCHAA;2CCHEE;2CCHE;2CCHO"),
   (0x2DC0, "ETHIOPIC SYLLABLE QYA;2QYU;2QYI;2QYAA;2QYEE;2QYE;2QYO"),
   (0x2DC8, "ETHIOPIC SYLLABLE KYA;2KYU;2KYI;2KYAA;2KYEE;2KYE;2KYO"),
   (0x2DD0, "ETHIOPIC SYLLABLE XYA;2XYU;2XYI;2XYAA;2XYEE;2XYE;2XYO"),
   (0x2DD8, "ETHIOPIC SYLLABLE GYA;2GYU;2GYI;2GYAA;2GYEE;2GYE;2GYO"),
   (0x2DE0, "COMBINING CYRILLIC LETTER BE;3VE;3GHE;3DE;3ZHE;3ZE;3KA;3EL;+2;3O;3PE;3ER;+1;3TE;3HA;
     3TSE;3CHE;3SHA;3SHCHA;3FITA;3ES-TE;3A;3IE;3DJERV;3MONOGRAPH UK;3YAT;3YU;3IOTIFIED A;
     3LITTLE YUS;3BIG/1;3IOTIFIED/2"),
   (0x2E00, "RIGHT ANGLE SUBSTITUTION MARKER;2DOTTED/2;LEFT SUBSTITUTION BRACKET;RIGHT/2;
     LEFT DOTTED/2;RIGHT/3;RAISED INTERPOLATION MARKER;1DOTTED/2;DOTTED TRANSPOSITION/1;
     LEFT TRANSPOSITION BRACKET;RIGHT/2;RAISED SQUARE;LEFT RAISED OMISSION BRACKET;RIGHT/3;
     EDITORIAL CORONIS;PARAGRAPHOS;FORKED/1;REVERSED/2;HYPODIASTOLE;DOTTED OBELOS;DOWNWARDS ANCORA;
     UPWARDS/1;DOTTED RIGHT-POINTING ANGLE;DOUBLE OBLIQUE HYPHEN;INVERTED INTERROBANG;PALM BRANCH;
     HYPHEN WITH DIAERESIS;TILDE WITH RING ABOVE;LEFT LOW PARAPHRASE BRACKET;RIGHT/3;
     TILDE WITH DOT ABOVE;3BELOW;LEFT VERTICAL BAR WITH QUILL;RIGHT/4;TOP LEFT HALF BRACKET;
     1RIGHT/2;BOTTOM LEFT/2;1RIGHT/2;LEFT SIDEWAYS U/1;RIGHT/3;LEFT DOUBLE PARENTHESIS;RIGHT/2;
     TWO DOTS OVER ONE DOT PUNCTUATION;ONE DOT OVER TWO DOTS/1;SQUARED FOUR DOT/1;FIVE DOT MARK;
     REVERSED QUESTION/1;VERTICAL TILDE;RING POINT;WORD SEPARATOR MIDDLE DOT;TURNED COMMA;
     RAISED DOT;1COMMA;TURNED SEMICOLON;DAGGER WITH LEFT GUARD;2RIGHT/1;TURNED DAGGER;
     TOP HALF SECTION SIGN;TWO-EM DASH;THREE-EM/1;STENOGRAPHIC FULL STOP;VERTICAL SIX DOTS;
     WIGGLY VERTICAL LINE;CAPITULUM;DOUBLE HYPHEN;REVERSED COMMA;
     DOUBLE LOW-REVERSED-9 QUOTATION MARK;DASH WITH LEFT UPTURN;DOUBLE SUSPENSION MARK;
     INVERTED LOW KAVYKA;3WITH KAVYKA ABOVE;LOW KAVYKA;2WITH DOT;DOUBLE STACKED COMMA;
     DOTTED SOLIDUS;TRIPLE DAGGER;MEDIEVAL COMMA;PARAGRAPHUS MARK;PUNCTUS ELEVATUS/1;
     CORNISH VERSE DIVIDER;CROSS PATTY WITH RIGHT CROSSBAR;3LEFT/1;TIRONIAN SIGN CAPITAL ET;
     MEDIEVAL EXCLAMATION MARK;1QUESTION/1;LEFT SQUARE BRACKET WITH STROKE;RIGHT/4;
     LEFT SQUARE BRACKET WITH DOUBLE/1;RIGHT/5;TOP HALF LEFT PARENTHESIS;2RIGHT/1;
     BOTTOM HALF LEFT/1;2RIGHT/1;OBLIQUE HYPHEN"),
   (0x2E80, "CJK RADICAL REPEAT;2CLIFF;2SECOND ONE;3TWO;3THREE;2PERSON;2BOX;2TABLE;2KNIFE ONE;3TWO;
     2DIVINATION;2SEAL;2SMALL ONE;3TWO;2LAME ONE;3TWO;3THREE;3FOUR;2SNAKE;2THREAD;2SNOUT ONE;3TWO;
     2HEART ONE;3TWO;2HAND;2RAP"),
   (0x2E9B, "CJK RADICAL CHOKE;2SUN;2MOON;2DEATH;2MOTHER;2CIVILIAN;2WATER ONE;3TWO;2FIRE;2PAW ONE;
     3TWO;2SIMPLIFIED HALF TREE TRUNK;2COW;2DOG;2JADE;2BOLT OF CLOTH;2EYE;2SPIRIT ONE;3TWO;2BAMBOO;
     2SILK;2C-SIMPLIFIED/1;2NET ONE;3TWO;3THREE;3FOUR;2MESH;2SHEEP;2RAM;2EWE;2OLD;2BRUSH ONE;3TWO;
     2MEAT;2MORTAR;2GRASS ONE;3TWO;3THREE;2TIGER;2CLOTHES;2WEST ONE;3TWO;2C-SIMPLIFIED SEE;
     2SIMPLIFIED HORN;2HORN;2C-SIMPLIFIED SPEECH;3SHELL;2FOOT;2C-SIMPLIFIED CART;2SIMPLIFIED WALK;
     2WALK ONE;3TWO;2CITY;2C-SIMPLIFIED GOLD;2LONG ONE;3TWO;2C-SIMPLIFIED LONG;3GATE;2MOUND ONE;
     3TWO;2RAIN;2BLUE;2C-SIMPLIFIED TANNED LEATHER;3LEAF;3WIND;3FLY;2EAT ONE;3TWO;3THREE;
     2C-SIMPLIFIED EAT;2HEAD;2C-SIMPLIFIED HORSE;2BONE;2GHOST;2C-SIMPLIFIED FISH;3BIRD;3SALT;
     2SIMPLIFIED WHEAT;3YELLOW;2C-SIMPLIFIED FROG;2J-SIMPLIFIED EVEN;2C-SIMPLIFIED/1;
     2J-SIMPLIFIED TOOTH;2C-SIMPLIFIED/1;2J-SIMPLIFIED DRAGON;2C-SIMPLIFIED/1;2TURTLE;
     2J-SIMPLIFIED/1;2C-SIMPLIFIED/1"),
   (0x2F00, "KANGXI RADICAL ONE;2LINE;2DOT;2SLASH;2SECOND;2HOOK;2TWO;2LID;2MAN;2LEGS;2ENTER;2EIGHT;
     2DOWN BOX;2COVER;2ICE;2TABLE;2OPEN BOX;2KNIFE;2POWER;2WRAP;2SPOON;2RIGHT OPEN BOX;
     2HIDING ENCLOSURE;2TEN;2DIVINATION;2SEAL;2CLIFF;2PRIVATE;2AGAIN;2MOUTH;2ENCLOSURE;2EARTH;
     2SCHOLAR;2GO;3SLOWLY;2EVENING;2BIG;2WOMAN;2CHILD;2ROOF;2INCH;2SMALL;2LAME;2CORPSE;2SPROUT;
     2MOUNTAIN;2RIVER;2WORK;2ONESELF;2TURBAN;2DRY;2SHORT THREAD;2DOTTED CLIFF;2LONG STRIDE;
     2TWO HANDS;2SHOOT;2BOW;2SNOUT;2BRISTLE;2STEP;2HEART;2HALBERD;2DOOR;2HAND;2BRANCH;2RAP;2SCRIPT;
     2DIPPER;2AXE;2SQUARE;2NOT;2SUN;2SAY;2MOON;2TREE;2LACK;2STOP;2DEATH;2WEAPON;2DO NOT;2COMPARE;
     2FUR;2CLAN;2STEAM;2WATER;2FIRE;2CLAW;2FATHER;2DOUBLE X;2HALF TREE TRUNK;2SLICE;2FANG;2COW;2DOG;
     2PROFOUND;2JADE;2MELON;2TILE;2SWEET;2LIFE;2USE;2FIELD;2BOLT OF CLOTH;2SICKNESS;2DOTTED TENT;
     2WHITE;2SKIN;2DISH;2EYE;2SPEAR;2ARROW;2STONE;2SPIRIT;2TRACK;2GRAIN;2CAVE;2STAND;2BAMBOO;2RICE;
     2SILK;2JAR;2NET;2SHEEP;2FEATHER;2OLD;2AND;2PLOW;2EAR;2BRUSH;2MEAT;2MINISTER;2SELF;2ARRIVE;
     2MORTAR;2TONGUE;2OPPOSE;2BOAT;2STOPPING;2COLOR;2GRASS;2TIGER;2INSECT;2BLOOD;2WALK ENCLOSURE;
     2CLOTHES;2WEST;2SEE;2HORN;2SPEECH;2VALLEY;2BEAN;2PIG;2BADGER;2SHELL;2RED;2RUN;2FOOT;2BODY;
     2CART;2BITTER;2MORNING;2WALK;2CITY;2WINE;2DISTINGUISH;2VILLAGE;2GOLD;2LONG;2GATE;2MOUND;2SLAVE;
     2SHORT TAILED BIRD;2RAIN;2BLUE;2WRONG;2FACE;2LEATHER;2TANNED/1;2LEEK;2SOUND;2LEAF;2WIND;2FLY;
     2EAT;2HEAD;2FRAGRANT;2HORSE;2BONE;2TALL;2HAIR;2FIGHT;2SACRIFICIAL WINE;2CAULDRON;2GHOST;2FISH;
     2BIRD;2SALT;2DEER;2WHEAT;2HEMP;2YELLOW;2MILLET;2BLACK;2EMBROIDERY;2FROG;2TRIPOD;2DRUM;2RAT;
     2NOSE;2EVEN;2TOOTH;2DRAGON;2TURTLE;2FLUTE"),
   (0x2FF0, "IDEOGRAPHIC DESCRIPTION CHARACTER LEFT TO RIGHT;3ABOVE TO BELOW;
     3LEFT TO MIDDLE AND RIGHT;3ABOVE TO MIDDLE AND BELOW;3FULL SURROUND;3SURROUND FROM ABOVE;
     5BELOW;5LEFT;5UPPER/1;6RIGHT;5LOWER LEFT;3OVERLAID"),
   (0x3000, "IDEOGRAPHIC SPACE;1COMMA;1FULL STOP;DITTO MARK;JAPANESE INDUSTRIAL STANDARD SYMBOL;
     IDEOGRAPHIC ITERATION MARK;1CLOSING/1;1NUMBER ZERO;LEFT ANGLE BRACKET;RIGHT/2;LEFT DOUBLE/2;
     RIGHT/3;LEFT CORNER/1;RIGHT/2;LEFT WHITE/2;RIGHT/3;LEFT BLACK LENTICULAR/1;RIGHT/3;POSTAL MARK;
     GETA/1;LEFT TORTOISE SHELL BRACKET;RIGHT/3;LEFT WHITE LENTICULAR/1;RIGHT/3;
     LEFT WHITE TORTOISE SHELL/1;RIGHT/4;LEFT WHITE SQUARE/1;RIGHT/3;WAVE DASH;
     REVERSED DOUBLE PRIME QUOTATION MARK;DOUBLE/3;LOW/4;POSTAL MARK FACE;HANGZHOU NUMERAL ONE;2TWO;
     2THREE;2FOUR;2FIVE;2SIX;2SEVEN;2EIGHT;2NINE;IDEOGRAPHIC LEVEL TONE MARK;1RISING/2;1DEPARTING/2;
     1ENTERING/2;HANGUL SINGLE DOT/2;1DOUBLE/3;WAVY DASH;VERTICAL KANA REPEAT MARK;
     3WITH VOICED SOUND/1;3MARK UPPER HALF;3WITH VOICED SOUND/3;3MARK LOWER/1;CIRCLED POSTAL MARK;
     IDEOGRAPHIC TELEGRAPH LINE FEED SEPARATOR SYMBOL;HANGZHOU NUMERAL TEN;2TWENTY;2THIRTY;
     VERTICAL IDEOGRAPHIC ITERATION MARK;MASU/1;PART ALTERNATION/1;IDEOGRAPHIC VARIATION INDICATOR;
     1HALF FILL SPACE"),
   (0x3041, "HIRAGANA LETTER SMALL A;2A;2SMALL I;2I;2SMALL U;2U;2SMALL E;2E;2SMALL O;2O;2KA;2GA;2KI;
     2GI;2KU;2GU;2KE;2GE;2KO;2GO;2SA;2ZA;2SI;2ZI;2SU;2ZU;2SE;2ZE;2SO;2ZO;2TA;2DA;2TI;2DI;2SMALL TU;
     2TU;2DU;2TE;2DE;2TO;2DO;2NA;2NI;2NU;2NE;2NO;2HA;2BA;2PA;2HI;2BI;2PI;2HU;2BU;2PU;2HE;2BE;2PE;
     2HO;2BO;2PO;2MA;2MI;2MU;2ME;2MO;2SMALL YA;2YA;2SMALL YU;2YU;2SMALL YO;2YO;2RA;2RI;2RU;2RE;2RO;
     2SMALL WA;2WA;2WI;2WE;2WO;2N;2VU;2SMALL KA;3KE"),
   (0x3099, "COMBINING KATAKANA-HIRAGANA VOICED SOUND MARK;2SEMI-VOICED/2;
     KATAKANA-HIRAGANA VOICED/2;1SEMI-VOICED/2;HIRAGANA ITERATION/1;1VOICED/2;1DIGRAPH YORI;
     KATAKANA-HIRAGANA DOUBLE HYPHEN;KATAKANA LETTER SMALL A;2A;2SMALL I;2I;2SMALL U;2U;2SMALL E;2E;
     2SMALL O;2O;2KA;2GA;2KI;2GI;2KU;2GU;2KE;2GE;2KO;2GO;2SA;2ZA;2SI;2ZI;2SU;2ZU;2SE;2ZE;2SO;2ZO;
     2TA;2DA;2TI;2DI;2SMALL TU;2TU;2DU;2TE;2DE;2TO;2DO;2NA;2NI;2NU;2NE;2NO;2HA;2BA;2PA;2HI;2BI;2PI;
     2HU;2BU;2PU;2HE;2BE;2PE;2HO;2BO;2PO;2MA;2MI;2MU;2ME;2MO;2SMALL YA;2YA;2SMALL YU;2YU;2SMALL YO;
     2YO;2RA;2RI;2RU;2RE;2RO;2SMALL WA;2WA;2WI;2WE;2WO;2N;2VU;2SMALL KA;3KE;2VA;2VI;2VE;2VO;
     1MIDDLE DOT;KATAKANA-HIRAGANA PROLONGED SOUND MARK;KATAKANA ITERATION/1;1VOICED/2;
     1DIGRAPH KOTO"),
   (0x3105, "BOPOMOFO LETTER B;2P;2M;2F;2D;2T;2N;2L;2G;2K;2H;2J;2Q;2X;2ZH;2CH;2SH;2R;2Z;2C;2S;2A;2O;
     2E;2EH;2AI;2EI;2AU;2OU;2AN;2EN;2ANG;2ENG;2ER;2I;2U;2IU;2V;2NG;2GN;2IH;2O WITH DOT ABOVE;2NN"),
   (0x3131, "HANGUL LETTER KIYEOK;2SSANGKIYEOK;2KIYEOK-SIOS;2NIEUN;2NIEUN-CIEUC;2NIEUN-HIEUH;
     2TIKEUT;2SSANGTIKEUT;2RIEUL;2RIEUL-KIYEOK;2RIEUL-MIEUM;2RIEUL-PIEUP;2RIEUL-SIOS;2RIEUL-THIEUTH;
     2RIEUL-PHIEUPH;2RIEUL-HIEUH;2MIEUM;2PIEUP;2SSANGPIEUP;2PIEUP-SIOS;2SIOS;2SSANGSIOS;2IEUNG;
     2CIEUC;2SSANGCIEUC;2CHIEUCH;2KHIEUKH;2THIEUTH;2PHIEUPH;2HIEUH;2A;2AE;2YA;2YAE;2EO;2E;2YEO;2YE;
     2O;2WA;2WAE;2OE;2YO;2U;2WEO;2WE;2WI;2YU;2EU;2YI;2I;1FILLER;1LETTER SSANGNIEUN;2NIEUN-TIKEUT;
     2NIEUN-SIOS;2NIEUN-PANSIOS;2RIEUL-KIYEOK-SIOS;2RIEUL-TIKEUT;2RIEUL-PIEUP-SIOS;2RIEUL-PANSIOS;
     2RIEUL-YEORINHIEUH;2MIEUM-PIEUP;2MIEUM-SIOS;2MIEUM-PANSIOS;2KAPYEOUNMIEUM;2PIEUP-KIYEOK;
     2PIEUP-TIKEUT;2PIEUP-SIOS-KIYEOK;2PIEUP-SIOS-TIKEUT;2PIEUP-CIEUC;2PIEUP-THIEUTH;2KAPYEOUNPIEUP;
     2KAPYEOUNSSANGPIEUP;2SIOS-KIYEOK;2SIOS-NIEUN;2SIOS-TIKEUT;2SIOS-PIEUP;2SIOS-CIEUC;2PANSIOS;
     2SSANGIEUNG;2YESIEUNG;2YESIEUNG-SIOS;2YESIEUNG-PANSIOS;2KAPYEOUNPHIEUPH;2SSANGHIEUH;
     2YEORINHIEUH;2YO-YA;2YO-YAE;2YO-I;2YU-YEO;2YU-YE;2YU-I;2ARAEA;2ARAEAE"),
   (0x3190, "IDEOGRAPHIC ANNOTATION LINKING MARK;2REVERSE/1;2ONE/1;2TWO/1;2THREE/1;2FOUR/1;2TOP/1;
     2MIDDLE/1;2BOTTOM/1;2FIRST/1;2SECOND/1;2THIRD/1;2FOURTH/1;2HEAVEN/1;2EARTH/1;2MAN/1;
     BOPOMOFO LETTER BU;2ZI;2JI;2GU;2EE;2ENN;2OO;2ONN;2IR;2ANN;2INN;2UNN;2IM;2NGG;2AINN;2AUNN;2AM;
     2OM;2ONG;2INNN;1FINAL LETTER P;3T;3K;3H;1LETTER GH;2LH;2ZY;1FINAL LETTER G;1LETTER GW;2KW;2OE;
     2AH;CJK STROKE T;2WG;2XG;2BXG;2SW;2HZZ;2HZG;2HP;2HZWG;2SZWG;2HZT;2HZZP;2HPWG;2HZW;2HZZZ;2N;2H;
     2S;2P;2SP;2D;2HZ;2HG;2SZ;2SWZ;2ST;2SG;2PD;2PZ;2TN;2SZZ;2SWG;2HXWG;2HZZZG;2PG;2Q"),
   (0x31F0, "KATAKANA LETTER SMALL KU;3SI;3SU;3TO;3NU;3HA;3HI;3HU;3HE;3HO;3MU;3RA;3RI;3RU;3RE;3RO"),
   (0x3200, "PARENTHESIZED HANGUL KIYEOK;2NIEUN;2TIKEUT;2RIEUL;2MIEUM;2PIEUP;2SIOS;2IEUNG;2CIEUC;
     2CHIEUCH;2KHIEUKH;2THIEUTH;2PHIEUPH;2HIEUH;2KIYEOK A;2NIEUN A;2TIKEUT A;2RIEUL A;2MIEUM A;
     2PIEUP A;2SIOS A;2IEUNG A;2CIEUC A;2CHIEUCH A;2KHIEUKH A;2THIEUTH A;2PHIEUPH A;2HIEUH A;
     2CIEUC U;1KOREAN CHARACTER OJEON;3O HU"),
   (0x3220, "PARENTHESIZED IDEOGRAPH ONE;2TWO;2THREE;2FOUR;2FIVE;2SIX;2SEVEN;2EIGHT;2NINE;2TEN;
     2MOON;2FIRE;2WATER;2WOOD;2METAL;2EARTH;2SUN;2STOCK;2HAVE;2SOCIETY;2NAME;2SPECIAL;2FINANCIAL;
     2CONGRATULATION;2LABOR;2REPRESENT;2CALL;2STUDY;2SUPERVISE;2ENTERPRISE;2RESOURCE;2ALLIANCE;
     2FESTIVAL;2REST;2SELF;2REACH;CIRCLED IDEOGRAPH QUESTION;2KINDERGARTEN;2SCHOOL;2KOTO;
     1NUMBER TEN ON BLACK SQUARE;2TWENTY/3;2THIRTY/3;2FORTY/3;2FIFTY/3;2SIXTY/3;2SEVENTY/3;
     2EIGHTY/3;PARTNERSHIP SIGN;CIRCLED NUMBER TWENTY ONE;3TWO;3THREE;3FOUR;3FIVE;3SIX;3SEVEN;
     3EIGHT;3NINE;2THIRTY;3ONE;3TWO;3THREE;3FOUR;3FIVE;1HANGUL KIYEOK;2NIEUN;2TIKEUT;2RIEUL;2MIEUM;
     2PIEUP;2SIOS;2IEUNG;2CIEUC;2CHIEUCH;2KHIEUKH;2THIEUTH;2PHIEUPH;2HIEUH;2KIYEOK A;2NIEUN A;
     2TIKEUT A;2RIEUL A;2MIEUM A;2PIEUP A;2SIOS A;2IEUNG A;2CIEUC A;2CHIEUCH A;2KHIEUKH A;
     2THIEUTH A;2PHIEUPH A;2HIEUH A;1KOREAN CHARACTER CHAMKO;3JUEUI;1HANGUL IEUNG U;
     KOREAN STANDARD SYMBOL;CIRCLED IDEOGRAPH ONE;2TWO;2THREE;2FOUR;2FIVE;2SIX;2SEVEN;2EIGHT;2NINE;
     2TEN;2MOON;2FIRE;2WATER;2WOOD;2METAL;2EARTH;2SUN;2STOCK;2HAVE;2SOCIETY;2NAME;2SPECIAL;
     2FINANCIAL;2CONGRATULATION;2LABOR;2SECRET;2MALE;2FEMALE;2SUITABLE;2EXCELLENT;2PRINT;2ATTENTION;
     2ITEM;2REST;2COPY;2CORRECT;2HIGH;2CENTRE;2LOW;2LEFT;2RIGHT;2MEDICINE;2RELIGION;2STUDY;
     2SUPERVISE;2ENTERPRISE;2RESOURCE;2ALLIANCE;2NIGHT;1NUMBER THIRTY SIX;3SEVEN;3EIGHT;3NINE;
     2FORTY;3ONE;3TWO;3THREE;3FOUR;3FIVE;3SIX;3SEVEN;3EIGHT;3NINE;2FIFTY;
     IDEOGRAPHIC TELEGRAPH SYMBOL FOR JANUARY;4FEBRUARY;4MARCH;4APRIL;4MAY;4JUNE;4JULY;4AUGUST;
     4SEPTEMBER;4OCTOBER;4NOVEMBER;4DECEMBER;SQUARE HG;1ERG;1EV;LIMITED LIABILITY SIGN;
     CIRCLED KATAKANA A;2I;2U;2E;2O;2KA;2KI;2KU;2KE;2KO;2SA;2SI;2SU;2SE;2SO;2TA;2TI;2TU;2TE;2TO;2NA;
     2NI;2NU;2NE;2NO;2HA;2HI;2HU;2HE;2HO;2MA;2MI;2MU;2ME;2MO;2YA;2YU;2YO;2RA;2RI;2RU;2RE;2RO;2WA;
     2WI;2WE;2WO;SQUARE ERA NAME REIWA"),
   (0x3300, "SQUARE APAATO;1ARUHUA;1ANPEA;1AARU;1ININGU;1INTI;1UON;1ESUKUUDO;1EEKAA;1ONSU;1OOMU;
     1KAIRI;1KARATTO;1KARORII;1GARON;1GANMA;1GIGA;1GINII;1KYURII;1GIRUDAA;1KIRO;1KIROGURAMU;
     1KIROMEETORU;1KIROWATTO;1GURAMU;1GURAMUTON;1KURUZEIRO;1KUROONE;1KEESU;1KORUNA;1KOOPO;1SAIKURU;
     1SANTIIMU;1SIRINGU;1SENTI;1SENTO;1DAASU;1DESI;1DORU;1TON;1NANO;1NOTTO;1HAITU;1PAASENTO;1PAATU;
     1BAARERU;1PIASUTORU;1PIKURU;1PIKO;1BIRU;1HUARADDO;1HUIITO;1BUSSYERU;1HURAN;1HEKUTAARU;1PESO;
     1PENIHI;1HERUTU;1PENSU;1PEEZI;1BEETA;1POINTO;1BORUTO;1HON;1PONDO;1HOORU;1HOON;1MAIKURO;1MAIRU;
     1MAHHA;1MARUKU;1MANSYON;1MIKURON;1MIRI;1MIRIBAARU;1MEGA;1MEGATON;1MEETORU;1YAADO;1YAARU;1YUAN;
     1RITTORU;1RIRA;1RUPII;1RUUBURU;1REMU;1RENTOGEN;1WATTO;
     IDEOGRAPHIC TELEGRAPH SYMBOL FOR HOUR ZERO;5ONE;5TWO;5THREE;5FOUR;5FIVE;5SIX;5SEVEN;5EIGHT;
     5NINE;5TEN;5ELEVEN;5TWELVE;5THIRTEEN;5FOURTEEN;5FIFTEEN;5SIXTEEN;5SEVENTEEN;5EIGHTEEN;
     5NINETEEN;5TWENTY;5TWENTY-ONE;5TWENTY-TWO;5TWENTY-THREE;5TWENTY-FOUR;SQUARE HPA;1DA;1AU;1BAR;
     1OV;1PC;1DM;2SQUARED;2CUBED;1IU;1ERA NAME HEISEI;3SYOUWA;3TAISYOU;3MEIZI;1CORPORATION;1PA AMPS;
     1NA;1MU A;1MA;1KA;+1;1MB;1GB;1CAL;1KCAL;1PF;1NF;1MU F;+1;1MG;1KG;1HZ;1KHZ;1MHZ;1GHZ;1THZ;1MU L;
     1ML;1DL;1KL;1FM;1NM;1MU M;1MM;1CM;1KM;1MM SQUARED;1CM/1;1M/1;1KM/1;1MM CUBED;1CM/1;1M/1;1KM/1;
     1M OVER S;4SQUARED;1PA;1KPA;1MPA;1GPA;1RAD;2OVER S;4SQUARED;1PS;1NS;1MU S;1MS;1PV;1NV;1MU V;
     1MV;1KV;1MV MEGA;1PW;1NW;1MU W;1MW;1KW;1MW MEGA;1K OHM;1M/1;1AM;1BQ;1CC;+1;1C OVER KG;1CO;1DB;
     1GY;1HA;1HP;1IN;1KK;1KM CAPITAL;1KT;1LM;+1;1LOG;1LX;1MB SMALL;1MIL;1MOL;1PH;1PM;1PPM;1PR;1SR;
     1SV;1WB;1V OVER M;1A/2;IDEOGRAPHIC TELEGRAPH SYMBOL FOR DAY ONE;5TWO;5THREE;5FOUR;5FIVE;5SIX;
     5SEVEN;5EIGHT;5NINE;5TEN;5ELEVEN;5TWELVE;5THIRTEEN;5FOURTEEN;5FIFTEEN;5SIXTEEN;5SEVENTEEN;
     5EIGHTEEN;5NINETEEN;5TWENTY;5TWENTY-ONE;5TWENTY-TWO;5TWENTY-THREE;5TWENTY-FOUR;5TWENTY-FIVE;
     5TWENTY-SIX;5TWENTY-SEVEN;5TWENTY-EIGHT;5TWENTY-NINE;5THIRTY;5THIRTY-ONE;SQUARE GAL"),
   (0x4DC0, "HEXAGRAM FOR THE CREATIVE HEAVEN;3RECEPTIVE EARTH;2DIFFICULTY AT THE BEGINNING;
     2YOUTHFUL FOLLY;2WAITING;2CONFLICT;2THE ARMY;2HOLDING TOGETHER;2SMALL TAMING;2TREADING;2PEACE;
     2STANDSTILL;2FELLOWSHIP;2GREAT POSSESSION;2MODESTY;2ENTHUSIASM;2FOLLOWING;2WORK ON THE DECAYED;
     2APPROACH;2CONTEMPLATION;2BITING THROUGH;2GRACE;2SPLITTING APART;2RETURN;2INNOCENCE;
     2GREAT TAMING;2MOUTH CORNERS;2GREAT PREPONDERANCE;2THE ABYSMAL WATER;3CLINGING FIRE;2INFLUENCE;
     2DURATION;2RETREAT;2GREAT POWER;2PROGRESS;2DARKENING OF THE LIGHT;2THE FAMILY;2OPPOSITION;
     2OBSTRUCTION;2DELIVERANCE;2DECREASE;2INCREASE;2BREAKTHROUGH;2COMING TO MEET;
     2GATHERING TOGETHER;2PUSHING UPWARD;2OPPRESSION;2THE WELL;2REVOLUTION;2THE CAULDRON;
     3AROUSING THUNDER;3KEEPING STILL MOUNTAIN;2DEVELOPMENT;2THE MARRYING MAIDEN;2ABUNDANCE;
     2THE WANDERER;3GENTLE WIND;3JOYOUS LAKE;2DISPERSION;2LIMITATION;2INNER TRUTH;
     2SMALL PREPONDERANCE;2AFTER COMPLETION;2BEFORE/1"),
   (0xA000, "YI SYLLABLE IT;2IX;2I;2IP;2IET;2IEX;2IE;2IEP;2AT;2AX;2A;2AP;2UOX;2UO;2UOP;2OT;2OX;2O;
     2OP;2EX;2E;2WU;2BIT;2BIX;2BI;2BIP;2BIET;2BIEX;2BIE;2BIEP;2BAT;2BAX;2BA;2BAP;2BUOX;2BUO;2BUOP;
     2BOT;2BOX;2BO;2BOP;2BEX;2BE;2BEP;2BUT;2BUX;2BU;2BUP;2BURX;2BUR;2BYT;2BYX;2BY;2BYP;2BYRX;2BYR;
     2PIT;2PIX;2PI;2PIP;2PIEX;2PIE;2PIEP;2PAT;2PAX;2PA;2PAP;2PUOX;2PUO;2PUOP;2POT;2POX;2PO;2POP;
     2PUT;2PUX;2PU;2PUP;2PURX;2PUR;2PYT;2PYX;2PY;2PYP;2PYRX;2PYR;2BBIT;2BBIX;2BBI;2BBIP;2BBIET;
     2BBIEX;2BBIE;2BBIEP;2BBAT;2BBAX;2BBA;2BBAP;2BBUOX;2BBUO;2BBUOP;2BBOT;2BBOX;2BBO;2BBOP;2BBEX;
     2BBE;2BBEP;2BBUT;2BBUX;2BBU;2BBUP;2BBURX;2BBUR;2BBYT;2BBYX;2BBY;2BBYP;2NBIT;2NBIX;2NBI;2NBIP;
     2NBIEX;2NBIE;2NBIEP;2NBAT;2NBAX;2NBA;2NBAP;2NBOT;2NBOX;2NBO;2NBOP;2NBUT;2NBUX;2NBU;2NBUP;
     2NBURX;2NBUR;2NBYT;2NBYX;2NBY;2NBYP;2NBYRX;2NBYR;2HMIT;2HMIX;2HMI;2HMIP;2HMIEX;2HMIE;2HMIEP;
     2HMAT;2HMAX;2HMA;2HMAP;2HMUOX;2HMUO;2HMUOP;2HMOT;2HMOX;2HMO;2HMOP;2HMUT;2HMUX;2HMU;2HMUP;
     2HMURX;2HMUR;2HMYX;2HMY;2HMYP;2HMYRX;2HMYR;2MIT;2MIX;2MI;2MIP;2MIEX;2MIE;2MIEP;2MAT;2MAX;2MA;
     2MAP;2MUOT;2MUOX;2MUO;2MUOP;2MOT;2MOX;2MO;2MOP;2MEX;2ME;2MUT;2MUX;2MU;2MUP;2MURX;2MUR;2MYT;
     2MYX;2MY;2MYP;2FIT;2FIX;2FI;2FIP;2FAT;2FAX;2FA;2FAP;2FOX;2FO;2FOP;2FUT;2FUX;2FU;2FUP;2FURX;
     2FUR;2FYT;2FYX;2FY;2FYP;2VIT;2VIX;2VI;2VIP;2VIET;2VIEX;2VIE;2VIEP;2VAT;2VAX;2VA;2VAP;2VOT;2VOX;
     2VO;2VOP;2VEX;2VEP;2VUT;2VUX;2VU;2VUP;2VURX;2VUR;2VYT;2VYX;2VY;2VYP;2VYRX;2VYR"),
   (0xA100, "YI SYLLABLE DIT;2DIX;2DI;2DIP;2DIEX;2DIE;2DIEP;2DAT;2DAX;2DA;2DAP;2DUOX;2DUO;2DOT;2DOX;
     2DO;2DOP;2DEX;2DE;2DEP;2DUT;2DUX;2DU;2DUP;2DURX;2DUR;2TIT;2TIX;2TI;2TIP;2TIEX;2TIE;2TIEP;2TAT;
     2TAX;2TA;2TAP;2TUOT;2TUOX;2TUO;2TUOP;2TOT;2TOX;2TO;2TOP;2TEX;2TE;2TEP;2TUT;2TUX;2TU;2TUP;2TURX;
     2TUR;2DDIT;2DDIX;2DDI;2DDIP;2DDIEX;2DDIE;2DDIEP;2DDAT;2DDAX;2DDA;2DDAP;2DDUOX;2DDUO;2DDUOP;
     2DDOT;2DDOX;2DDO;2DDOP;2DDEX;2DDE;2DDEP;2DDUT;2DDUX;2DDU;2DDUP;2DDURX;2DDUR;2NDIT;2NDIX;2NDI;
     2NDIP;2NDIEX;2NDIE;2NDAT;2NDAX;2NDA;2NDAP;2NDOT;2NDOX;2NDO;2NDOP;2NDEX;2NDE;2NDEP;2NDUT;2NDUX;
     2NDU;2NDUP;2NDURX;2NDUR;2HNIT;2HNIX;2HNI;2HNIP;2HNIET;2HNIEX;2HNIE;2HNIEP;2HNAT;2HNAX;2HNA;
     2HNAP;2HNUOX;2HNUO;2HNOT;2HNOX;2HNOP;2HNEX;2HNE;2HNEP;2HNUT;2NIT;2NIX;2NI;2NIP;2NIEX;2NIE;
     2NIEP;2NAX;2NA;2NAP;2NUOX;2NUO;2NUOP;2NOT;2NOX;2NO;2NOP;2NEX;2NE;2NEP;2NUT;2NUX;2NU;2NUP;2NURX;
     2NUR;2HLIT;2HLIX;2HLI;2HLIP;2HLIEX;2HLIE;2HLIEP;2HLAT;2HLAX;2HLA;2HLAP;2HLUOX;2HLUO;2HLUOP;
     2HLOX;2HLO;2HLOP;2HLEX;2HLE;2HLEP;2HLUT;2HLUX;2HLU;2HLUP;2HLURX;2HLUR;2HLYT;2HLYX;2HLY;2HLYP;
     2HLYRX;2HLYR;2LIT;2LIX;2LI;2LIP;2LIET;2LIEX;2LIE;2LIEP;2LAT;2LAX;2LA;2LAP;2LUOT;2LUOX;2LUO;
     2LUOP;2LOT;2LOX;2LO;2LOP;2LEX;2LE;2LEP;2LUT;2LUX;2LU;2LUP;2LURX;2LUR;2LYT;2LYX;2LY;2LYP;2LYRX;
     2LYR;2GIT;2GIX;2GI;2GIP;2GIET;2GIEX;2GIE;2GIEP;2GAT;2GAX;2GA;2GAP;2GUOT;2GUOX;2GUO;2GUOP;2GOT;
     2GOX;2GO;2GOP;2GET;2GEX;2GE;2GEP;2GUT;2GUX;2GU;2GUP;2GURX;2GUR;2KIT;2KIX;2KI;2KIP;2KIEX;2KIE;
     2KIEP;2KAT"),
   (0xA200, "YI SYLLABLE KAX;2KA;2KAP;2KUOX;2KUO;2KUOP;2KOT;2KOX;2KO;2KOP;2KET;2KEX;2KE;2KEP;2KUT;
     2KUX;2KU;2KUP;2KURX;2KUR;2GGIT;2GGIX;2GGI;2GGIEX;2GGIE;2GGIEP;2GGAT;2GGAX;2GGA;2GGAP;2GGUOT;
     2GGUOX;2GGUO;2GGUOP;2GGOT;2GGOX;2GGO;2GGOP;2GGET;2GGEX;2GGE;2GGEP;2GGUT;2GGUX;2GGU;2GGUP;
     2GGURX;2GGUR;2MGIEX;2MGIE;2MGAT;2MGAX;2MGA;2MGAP;2MGUOX;2MGUO;2MGUOP;2MGOT;2MGOX;2MGO;2MGOP;
     2MGEX;2MGE;2MGEP;2MGUT;2MGUX;2MGU;2MGUP;2MGURX;2MGUR;2HXIT;2HXIX;2HXI;2HXIP;2HXIET;2HXIEX;
     2HXIE;2HXIEP;2HXAT;2HXAX;2HXA;2HXAP;2HXUOT;2HXUOX;2HXUO;2HXUOP;2HXOT;2HXOX;2HXO;2HXOP;2HXEX;
     2HXE;2HXEP;2NGIEX;2NGIE;2NGIEP;2NGAT;2NGAX;2NGA;2NGAP;2NGUOT;2NGUOX;2NGUO;2NGOT;2NGOX;2NGO;
     2NGOP;2NGEX;2NGE;2NGEP;2HIT;2HIEX;2HIE;2HAT;2HAX;2HA;2HAP;2HUOT;2HUOX;2HUO;2HUOP;2HOT;2HOX;2HO;
     2HOP;2HEX;2HE;2HEP;2WAT;2WAX;2WA;2WAP;2WUOX;2WUO;2WUOP;2WOX;2WO;2WOP;2WEX;2WE;2WEP;2ZIT;2ZIX;
     2ZI;2ZIP;2ZIEX;2ZIE;2ZIEP;2ZAT;2ZAX;2ZA;2ZAP;2ZUOX;2ZUO;2ZUOP;2ZOT;2ZOX;2ZO;2ZOP;2ZEX;2ZE;2ZEP;
     2ZUT;2ZUX;2ZU;2ZUP;2ZURX;2ZUR;2ZYT;2ZYX;2ZY;2ZYP;2ZYRX;2ZYR;2CIT;2CIX;2CI;2CIP;2CIET;2CIEX;
     2CIE;2CIEP;2CAT;2CAX;2CA;2CAP;2CUOX;2CUO;2CUOP;2COT;2COX;2CO;2COP;2CEX;2CE;2CEP;2CUT;2CUX;2CU;
     2CUP;2CURX;2CUR;2CYT;2CYX;2CY;2CYP;2CYRX;2CYR;2ZZIT;2ZZIX;2ZZI;2ZZIP;2ZZIET;2ZZIEX;2ZZIE;
     2ZZIEP;2ZZAT;2ZZAX;2ZZA;2ZZAP;2ZZOX;2ZZO;2ZZOP;2ZZEX;2ZZE;2ZZEP;2ZZUX;2ZZU;2ZZUP;2ZZURX;2ZZUR;
     2ZZYT;2ZZYX;2ZZY;2ZZYP;2ZZYRX;2ZZYR;2NZIT;2NZIX;2NZI;2NZIP;2NZIEX;2NZIE;2NZIEP;2NZAT;2NZAX;
     2NZA;2NZAP;2NZUOX;2NZUO;2NZOX;2NZOP;2NZEX;2NZE;2NZUX;2NZU"),
   (0xA300, "YI SYLLABLE NZUP;2NZURX;2NZUR;2NZYT;2NZYX;2NZY;2NZYP;2NZYRX;2NZYR;2SIT;2SIX;2SI;2SIP;
     2SIEX;2SIE;2SIEP;2SAT;2SAX;2SA;2SAP;2SUOX;2SUO;2SUOP;2SOT;2SOX;2SO;2SOP;2SEX;2SE;2SEP;2SUT;
     2SUX;2SU;2SUP;2SURX;2SUR;2SYT;2SYX;2SY;2SYP;2SYRX;2SYR;2SSIT;2SSIX;2SSI;2SSIP;2SSIEX;2SSIE;
     2SSIEP;2SSAT;2SSAX;2SSA;2SSAP;2SSOT;2SSOX;2SSO;2SSOP;2SSEX;2SSE;2SSEP;2SSUT;2SSUX;2SSU;2SSUP;
     2SSYT;2SSYX;2SSY;2SSYP;2SSYRX;2SSYR;2ZHAT;2ZHAX;2ZHA;2ZHAP;2ZHUOX;2ZHUO;2ZHUOP;2ZHOT;2ZHOX;
     2ZHO;2ZHOP;2ZHET;2ZHEX;2ZHE;2ZHEP;2ZHUT;2ZHUX;2ZHU;2ZHUP;2ZHURX;2ZHUR;2ZHYT;2ZHYX;2ZHY;2ZHYP;
     2ZHYRX;2ZHYR;2CHAT;2CHAX;2CHA;2CHAP;2CHUOT;2CHUOX;2CHUO;2CHUOP;2CHOT;2CHOX;2CHO;2CHOP;2CHET;
     2CHEX;2CHE;2CHEP;2CHUX;2CHU;2CHUP;2CHURX;2CHUR;2CHYT;2CHYX;2CHY;2CHYP;2CHYRX;2CHYR;2RRAX;2RRA;
     2RRUOX;2RRUO;2RROT;2RROX;2RRO;2RROP;2RRET;2RREX;2RRE;2RREP;2RRUT;2RRUX;2RRU;2RRUP;2RRURX;2RRUR;
     2RRYT;2RRYX;2RRY;2RRYP;2RRYRX;2RRYR;2NRAT;2NRAX;2NRA;2NRAP;2NROX;2NRO;2NROP;2NRET;2NREX;2NRE;
     2NREP;2NRUT;2NRUX;2NRU;2NRUP;2NRURX;2NRUR;2NRYT;2NRYX;2NRY;2NRYP;2NRYRX;2NRYR;2SHAT;2SHAX;2SHA;
     2SHAP;2SHUOX;2SHUO;2SHUOP;2SHOT;2SHOX;2SHO;2SHOP;2SHET;2SHEX;2SHE;2SHEP;2SHUT;2SHUX;2SHU;2SHUP;
     2SHURX;2SHUR;2SHYT;2SHYX;2SHY;2SHYP;2SHYRX;2SHYR;2RAT;2RAX;2RA;2RAP;2RUOX;2RUO;2RUOP;2ROT;2ROX;
     2RO;2ROP;2REX;2RE;2REP;2RUT;2RUX;2RU;2RUP;2RURX;2RUR;2RYT;2RYX;2RY;2RYP;2RYRX;2RYR;2JIT;2JIX;
     2JI;2JIP;2JIET;2JIEX;2JIE;2JIEP;2JUOT;2JUOX;2JUO;2JUOP;2JOT;2JOX;2JO;2JOP;2JUT;2JUX;2JU;2JUP;
     2JURX;2JUR;2JYT;2JYX;2JY;2JYP;2JYRX;2JYR;2QIT;2QIX;2QI;2QIP"),
   (0xA400, "YI SYLLABLE QIET;2QIEX;2QIE;2QIEP;2QUOT;2QUOX;2QUO;2QUOP;2QOT;2QOX;2QO;2QOP;2QUT;2QUX;
     2QU;2QUP;2QURX;2QUR;2QYT;2QYX;2QY;2QYP;2QYRX;2QYR;2JJIT;2JJIX;2JJI;2JJIP;2JJIET;2JJIEX;2JJIE;
     2JJIEP;2JJUOX;2JJUO;2JJUOP;2JJOT;2JJOX;2JJO;2JJOP;2JJUT;2JJUX;2JJU;2JJUP;2JJURX;2JJUR;2JJYT;
     2JJYX;2JJY;2JJYP;2NJIT;2NJIX;2NJI;2NJIP;2NJIET;2NJIEX;2NJIE;2NJIEP;2NJUOX;2NJUO;2NJOT;2NJOX;
     2NJO;2NJOP;2NJUX;2NJU;2NJUP;2NJURX;2NJUR;2NJYT;2NJYX;2NJY;2NJYP;2NJYRX;2NJYR;2NYIT;2NYIX;2NYI;
     2NYIP;2NYIET;2NYIEX;2NYIE;2NYIEP;2NYUOX;2NYUO;2NYUOP;2NYOT;2NYOX;2NYO;2NYOP;2NYUT;2NYUX;2NYU;
     2NYUP;2XIT;2XIX;2XI;2XIP;2XIET;2XIEX;2XIE;2XIEP;2XUOX;2XUO;2XOT;2XOX;2XO;2XOP;2XYT;2XYX;2XY;
     2XYP;2XYRX;2XYR;2YIT;2YIX;2YI;2YIP;2YIET;2YIEX;2YIE;2YIEP;2YUOT;2YUOX;2YUO;2YUOP;2YOT;2YOX;2YO;
     2YOP;2YUT;2YUX;2YU;2YUP;2YURX;2YUR;2YYT;2YYX;2YY;2YYP;2YYRX;2YYR"),
   (0xA490, "YI RADICAL QOT;2LI;2KIT;2NYIP;2CYP;2SSI;2GGOP;2GEP;2MI;2HXIT;2LYR;2BBUT;2MOP;2YO;2PUT;
     2HXUO;2TAT;2GA;2ZUP;2CYT;2DDUR;2BUR;2GGUO;2NYOP;2TU;2OP;2JJUT;2ZOT;2PYT;2HMO;2YIT;2VUR;2SHY;
     2VEP;2ZA;2JO;2NZUP;2JJY;2GOT;2JJIE;2WO;2DU;2SHUR;2LIE;2CY;2CUOP;2CIP;2HXOP;2SHAT;2ZUR;2SHOP;
     2CHE;2ZZIET;2NBIE;2KE"),
   (0xA4D0, "LISU LETTER BA;2PA;2PHA;2DA;2TA;2THA;2GA;2KA;2KHA;2JA;2CA;2CHA;2DZA;2TSA;2TSHA;2MA;2NA;
     2LA;2SA;2ZHA;2ZA;2NGA;2HA;2XA;2HHA;2FA;2WA;2SHA;2YA;2GHA;2A;2AE;2E;2EU;2I;2O;2U;2UE;2UH;2OE;
     2TONE MYA TI;3NA PO;3MYA CYA;4BO;4NA;4JEU;1PUNCTUATION COMMA;2FULL STOP"),
   (0xA500, "VAI SYLLABLE EE;2EEN;2HEE;2WEE;2WEEN;2PEE;2BHEE;2BEE;2MBEE;2KPEE;2MGBEE;2GBEE;2FEE;
     2VEE;2TEE;2THEE;2DHEE;2DHHEE;2LEE;2REE;2DEE;2NDEE;2SEE;2SHEE;2ZEE;2ZHEE;2CEE;2JEE;2NJEE;2YEE;
     2KEE;2NGGEE;2GEE;2MEE;2NEE;2NYEE;2I;2IN;2HI;2HIN;2WI;2WIN;2PI;2BHI;2BI;2MBI;2KPI;2MGBI;2GBI;
     2FI;2VI;2TI;2THI;2DHI;2DHHI;2LI;2RI;2DI;2NDI;2SI;2SHI;2ZI;2ZHI;2CI;2JI;2NJI;2YI;2KI;2NGGI;2GI;
     2MI;2NI;2NYI;2A;2AN;2NGAN;2HA;2HAN;2WA;2WAN;2PA;2BHA;2BA;2MBA;2KPA;2KPAN;2MGBA;2GBA;2FA;2VA;
     2TA;2THA;2DHA;2DHHA;2LA;2RA;2DA;2NDA;2SA;2SHA;2ZA;2ZHA;2CA;2JA;2NJA;2YA;2KA;2KAN;2NGGA;2GA;2MA;
     2NA;2NYA;2OO;2OON;2HOO;2WOO;2WOON;2POO;2BHOO;2BOO;2MBOO;2KPOO;2MGBOO;2GBOO;2FOO;2VOO;2TOO;
     2THOO;2DHOO;2DHHOO;2LOO;2ROO;2DOO;2NDOO;2SOO;2SHOO;2ZOO;2ZHOO;2COO;2JOO;2NJOO;2YOO;2KOO;2NGGOO;
     2GOO;2MOO;2NOO;2NYOO;2U;2UN;2HU;2HUN;2WU;2WUN;2PU;2BHU;2BU;2MBU;2KPU;2MGBU;2GBU;2FU;2VU;2TU;
     2THU;2DHU;2DHHU;2LU;2RU;2DU;2NDU;2SU;2SHU;2ZU;2ZHU;2CU;2JU;2NJU;2YU;2KU;2NGGU;2GU;2MU;2NU;2NYU;
     2O;2ON;2NGON;2HO;2HON;2WO;2WON;2PO;2BHO;2BO;2MBO;2KPO;2MGBO;2GBO;2GBON;2FO;2VO;2TO;2THO;2DHO;
     2DHHO;2LO;2RO;2DO;2NDO;2SO;2SHO;2ZO;2ZHO;2CO;2JO;2NJO;2YO;2KO;2NGGO;2GO;2MO;2NO;2NYO;2E;2EN;
     2NGEN;2HE;2HEN;2WE;2WEN;2PE;2BHE;2BE;2MBE;2KPE;2KPEN;2MGBE;2GBE;2GBEN;2FE;2VE;2TE;2THE;2DHE;
     2DHHE;2LE;2RE;2DE;2NDE;2SE;2SHE;2ZE;2ZHE;2CE"),
   (0xA600, "VAI SYLLABLE JE;2NJE;2YE;2KE;2NGGE;2NGGEN;2GE;2GEN;2ME;2NE;2NYE;2NG;2LENGTHENER;1COMMA;
     1FULL STOP;1QUESTION MARK;1SYLLABLE NDOLE FA;3KA;3SOO;1SYMBOL FEENG;2KEENG;2TING;2NII;2BANG;
     2FAA;2TAA;2DANG;2DOONG;2KUNG;2TONG;2DO-O;2JONG;1DIGIT ZERO;2ONE;2TWO;2THREE;2FOUR;2FIVE;2SIX;
     2SEVEN;2EIGHT;2NINE;1SYLLABLE NDOLE MA;3DO"),
   (0xA640, "CYRILLIC CAPITAL LETTER ZEMLYA;1SMALL/2;1CAPITAL LETTER DZELO;1SMALL/2;
     1CAPITAL LETTER REVERSED DZE;1SMALL/3;1CAPITAL LETTER IOTA;1SMALL/2;1CAPITAL LETTER DJERV;
     1SMALL/2;1CAPITAL LETTER MONOGRAPH UK;1SMALL/3;1CAPITAL LETTER BROAD OMEGA;1SMALL/3;
     1CAPITAL LETTER NEUTRAL YER;1SMALL/3;1CAPITAL LETTER YERU WITH BACK/1;1SMALL/5;
     1CAPITAL LETTER IOTIFIED YAT;1SMALL/3;1CAPITAL LETTER REVERSED YU;1SMALL/3;
     1CAPITAL LETTER IOTIFIED A;1SMALL/3;1CAPITAL LETTER CLOSED LITTLE YUS;1SMALL/4;
     1CAPITAL LETTER BLENDED/1;1SMALL/3;1CAPITAL LETTER IOTIFIED CLOSED LITTLE/1;1SMALL/5;
     1CAPITAL LETTER YN;1SMALL/2;1CAPITAL LETTER REVERSED TSE;1SMALL/3;1CAPITAL LETTER SOFT DE;
     1SMALL/3;1CAPITAL LETTER SOFT EL;1SMALL/3;1CAPITAL LETTER SOFT EM;1SMALL/3;
     1CAPITAL LETTER MONOCULAR O;1SMALL/3;1CAPITAL LETTER BINOCULAR O;1SMALL/3;
     1CAPITAL LETTER DOUBLE MONOCULAR O;1SMALL/4;1LETTER MULTIOCULAR O;COMBINING CYRILLIC VZMET;
     2TEN MILLIONS SIGN;2HUNDRED/2;2THOUSAND/2;SLAVONIC ASTERISK;
     COMBINING CYRILLIC LETTER UKRAINIAN IE;3I;3YI;3U;3HARD SIGN;3YERU;3SOFT SIGN;3OMEGA;2KAVYKA;
     2PAYEROK;CYRILLIC KAVYKA;1PAYEROK;1CAPITAL LETTER DWE;1SMALL/2;1CAPITAL LETTER DZWE;1SMALL/2;
     1CAPITAL LETTER ZHWE;1SMALL/2;1CAPITAL LETTER CCHE;1SMALL/2;1CAPITAL LETTER DZZE;1SMALL/2;
     1CAPITAL LETTER TE WITH MIDDLE HOOK;1SMALL/5;1CAPITAL LETTER TWE;1SMALL/2;1CAPITAL LETTER TSWE;
     1SMALL/2;1CAPITAL LETTER TSSE;1SMALL/2;1CAPITAL LETTER TCHE;1SMALL/2;1CAPITAL LETTER HWE;
     1SMALL/2;1CAPITAL LETTER SHWE;1SMALL/2;1CAPITAL LETTER DOUBLE O;1SMALL/3;
     1CAPITAL LETTER CROSSED O;1SMALL/3;MODIFIER LETTER CYRILLIC HARD SIGN;3SOFT/1;
     COMBINING CYRILLIC LETTER EF;3IOTIFIED E;BAMUM LETTER A;2KA;2U;2KU;2EE;2REE;2TAE;2O;2NYI;2I;
     2LA;2PA;2RII;2RIEE;2LEEEE;2MEEEE;2TAA;2NDAA;2NJAEM;2M;2SUU;2MU;2SHII;2SI;2SHEUX;2SEUX;2KYEE;
     2KET;2NUAE;2NU;2NJUAE;2YOQ;2SHU;2YUQ;2YA;2NSHA;2KEUX;2PEUX;2NJEE;2NTEE;2PUE;2WUE;2PEE;2FEE;2RU;
     2LU;2MI;2NI;2REUX;2RAE;2KEN;2NGKWAEN;2NGGA;2NGA;2SHO;2PUAE;2FU;2FOM;2WA;2NA;2LI;2PI;2LOQ;2KO;
     2MBEN;2REN;2MEN;2MA;2TI;2KI;2MO;2MBAA;2TET;2KPA;2TEN;2NTUU;2SAMBA;2FAAMAE;2KOVUU;2KOGHOM;
     1COMBINING MARK KOQNDON;3TUKWENTIS;1NJAEMLI;1FULL STOP;1COLON;1COMMA;1SEMICOLON;
     1QUESTION MARK"),
   (0xA700, "MODIFIER LETTER CHINESE TONE YIN PING;4YANG/1;4YIN SHANG;4YANG/1;4YIN QU;4YANG/1;
     4YIN RU;4YANG/1;2EXTRA-HIGH DOTTED TONE BAR;2HIGH/3;2MID/3;2LOW/3;2EXTRA-LOW/3;
     2EXTRA-HIGH DOTTED LEFT-STEM/2;2HIGH/4;2MID/4;2LOW/4;2EXTRA-LOW/4;2EXTRA-HIGH/3;2HIGH/3;2MID/3;
     2LOW/3;2EXTRA-LOW/3;2DOT VERTICAL/1;3SLASH;3HORIZONTAL BAR;2LOWER RIGHT CORNER ANGLE;
     2RAISED UP ARROW;3DOWN/1;3EXCLAMATION MARK;3INVERTED/2;2LOW/3;2STRESS AND HIGH TONE;4LOW/1;
     LATIN CAPITAL LETTER EGYPTOLOGICAL ALEF;1SMALL/3;1CAPITAL LETTER EGYPTOLOGICAL AIN;1SMALL/3;
     1CAPITAL LETTER HENG;1SMALL/2;1CAPITAL LETTER TZ;1SMALL/2;1CAPITAL LETTER TRESILLO;1SMALL/2;
     1CAPITAL LETTER CUATRILLO;1SMALL/2;1CAPITAL LETTER CUATRILLO WITH COMMA;1SMALL/4;
     1LETTER SMALL CAPITAL F;4S;1CAPITAL LETTER AA;1SMALL/2;1CAPITAL LETTER AO;1SMALL/2;
     1CAPITAL LETTER AU;1SMALL/2;1CAPITAL LETTER AV;1SMALL/2;1CAPITAL LETTER AV WITH HORIZONTAL BAR;
     1SMALL/5;1CAPITAL LETTER AY;1SMALL/2;1CAPITAL LETTER REVERSED C WITH DOT;1SMALL/5;
     1CAPITAL LETTER K WITH STROKE;1SMALL/4;1CAPITAL LETTER K WITH DIAGONAL/1;1SMALL/5;
     1CAPITAL LETTER K WITH STROKE AND/2;1SMALL/7;1CAPITAL LETTER BROKEN L;1SMALL/3;
     1CAPITAL LETTER L WITH HIGH STROKE;1SMALL/5;1CAPITAL LETTER O WITH LONG STROKE OVERLAY;
     1SMALL/6;1CAPITAL LETTER O WITH LOOP;1SMALL/4;1CAPITAL LETTER OO;1SMALL/2;
     1CAPITAL LETTER P WITH STROKE THROUGH DESCENDER;1SMALL/6;1CAPITAL LETTER P WITH FLOURISH;
     1SMALL/4;1CAPITAL LETTER P WITH SQUIRREL TAIL;1SMALL/5;
     1CAPITAL LETTER Q WITH STROKE THROUGH DESCENDER;1SMALL/6;
     1CAPITAL LETTER Q WITH DIAGONAL STROKE;1SMALL/5;1CAPITAL LETTER R ROTUNDA;1SMALL/3;
     1CAPITAL LETTER RUM/1;1SMALL/3;1CAPITAL LETTER V WITH DIAGONAL STROKE;1SMALL/5;
     1CAPITAL LETTER VY;1SMALL/2;1CAPITAL LETTER VISIGOTHIC Z;1SMALL/3;
     1CAPITAL LETTER THORN WITH STROKE;1SMALL/4;1CAPITAL LETTER THORN WITH STROKE THROUGH DESCENDER;
     1SMALL/6;1CAPITAL LETTER VEND;1SMALL/2;1CAPITAL LETTER ET;1SMALL/2;1CAPITAL LETTER IS;1SMALL/2;
     1CAPITAL LETTER CON;1SMALL/2;MODIFIER LETTER US;LATIN SMALL LETTER DUM;3LUM;3MUM;3NUM;3RUM;
     1LETTER SMALL CAPITAL/1;1SMALL LETTER TUM;3UM;1CAPITAL LETTER INSULAR D;1SMALL/3;
     1CAPITAL LETTER INSULAR F;1SMALL/3;1CAPITAL LETTER INSULAR G;3TURNED/2;1SMALL/4;
     1CAPITAL LETTER TURNED L;1SMALL/3;1CAPITAL LETTER INSULAR R;1SMALL/3;1CAPITAL LETTER INSULAR S;
     1SMALL/3;1CAPITAL LETTER INSULAR T;1SMALL/3;MODIFIER LETTER LOW CIRCUMFLEX ACCENT;2COLON;
     2SHORT EQUALS SIGN;LATIN CAPITAL LETTER SALTILLO;1SMALL/2;1CAPITAL LETTER TURNED H;
     1SMALL LETTER L WITH RETROFLEX HOOK AND BELT;1LETTER SINOLOGICAL DOT;
     1CAPITAL LETTER N WITH DESCENDER;1SMALL/4;1CAPITAL LETTER C WITH BAR;1SMALL/4;5PALATAL HOOK;
     3H/3;1CAPITAL LETTER B WITH FLOURISH;1SMALL/4;1CAPITAL LETTER F WITH STROKE;1SMALL/4;
     1CAPITAL LETTER VOLAPUK AE;1SMALL/3;1CAPITAL LETTER VOLAPUK OE;1SMALL/3;
     1CAPITAL LETTER VOLAPUK UE;1SMALL/3;1CAPITAL LETTER G WITH OBLIQUE STROKE;1SMALL/5;
     1CAPITAL LETTER K/3;1SMALL/5;1CAPITAL LETTER N/3;1SMALL/5;1CAPITAL LETTER R/3;1SMALL/5;
     1CAPITAL LETTER S/3;1SMALL/5;1CAPITAL LETTER H WITH HOOK;3REVERSED OPEN E;3SCRIPT G;
     3L WITH BELT;3SMALL CAPITAL I;1LETTER SMALL CAPITAL Q;1CAPITAL LETTER TURNED K;4T;
     3J WITH CROSSED-TAIL;3CHI;3BETA;1SMALL/2;1CAPITAL LETTER OMEGA;1SMALL/2;
     1CAPITAL LETTER U WITH STROKE;1SMALL/4;1CAPITAL LETTER GLOTTAL A;1SMALL/3;
     1CAPITAL LETTER GLOTTAL I;1SMALL/3;1CAPITAL LETTER GLOTTAL U;1SMALL/3;
     1CAPITAL LETTER OLD POLISH O;1SMALL/4;1CAPITAL LETTER ANGLICANA W;1SMALL/3;
     1CAPITAL LETTER C WITH PALATAL HOOK;3S WITH/1;3Z WITH PALATAL/1;3D WITH SHORT STROKE OVERLAY;
     1SMALL/6;1CAPITAL LETTER S/4;1SMALL/6"),
   (0xA7D0, "LATIN CAPITAL LETTER CLOSED INSULAR G;1SMALL/4"),
   (0xA7D3, "LATIN SMALL LETTER DOUBLE THORN"),
   (0xA7D5, "LATIN SMALL LETTER DOUBLE WYNN;1CAPITAL LETTER MIDDLE SCOTS S;1SMALL/4;
     1CAPITAL LETTER SIGMOID S;1SMALL/3"),
   (0xA7F2, "MODIFIER LETTER CAPITAL C;3F;3Q;LATIN CAPITAL LETTER REVERSED HALF H;1SMALL/4;
     1EPIGRAPHIC LETTER SIDEWAYS I;MODIFIER LETTER CAPITAL H WITH STROKE;2SMALL LIGATURE OE;
     LATIN LETTER SMALL CAPITAL TURNED M;1EPIGRAPHIC LETTER REVERSED F;4P;3INVERTED M;3I LONGA;
     3ARCHAIC M"),
   (0xA800, "SYLOTI NAGRI LETTER A;3I;2SIGN DVISVARA;2LETTER U;3E;3O;2SIGN HASANTA;2LETTER KO;3KHO;
     3GO;3GHO;2SIGN ANUSVARA;2LETTER CO;3CHO;3JO;3JHO;3TTO;3TTHO;3DDO;3DDHO;3TO;3THO;3DO;3DHO;3NO;
     3PO;3PHO;3BO;3BHO;3MO;3RO;3LO;3RRO;3SO;3HO;2VOWEL SIGN A;4I;4U;4E;4OO;2POETRY MARK-1;+3;
     2SIGN ALTERNATE HASANTA"),
   (0xA830, "NORTH INDIC FRACTION ONE QUARTER;4HALF;3THREE QUARTERS;3ONE SIXTEENTH;4EIGHTH;
     3THREE SIXTEENTHS;2QUARTER MARK;2PLACEHOLDER/1;2RUPEE/1;2QUANTITY/1"),
   (0xA840, "PHAGS-PA LETTER KA;2KHA;2GA;2NGA;2CA;2CHA;2JA;2NYA;2TA;2THA;2DA;2NA;2PA;2PHA;2BA;2MA;
     2TSA;2TSHA;2DZA;2WA;2ZHA;2ZA;2SMALL A;2YA;2RA;2LA;2SHA;2SA;2HA;2A;2I;2U;2E;2O;2QA;2XA;2FA;2GGA;
     2EE;1SUBJOINED LETTER WA;3YA;1LETTER TTA;2TTHA;2DDA;2NNA;2ALTERNATE YA;2VOICELESS SHA;
     2VOICED HA;2ASPIRATED FA;1SUBJOINED LETTER RA;1SUPERFIXED/2;1LETTER CANDRABINDU;
     1SINGLE HEAD MARK;1DOUBLE/2;1MARK SHAD;2DOUBLE/1"),
   (0xA880, "SAURASHTRA SIGN ANUSVARA;2VISARGA;1LETTER A;2AA;2I;2II;2U;2UU;2VOCALIC R;3RR;3L;3LL;2E;
     2EE;2AI;2O;2OO;2AU;2KA;2KHA;2GA;2GHA;2NGA;2CA;2CHA;2JA;2JHA;2NYA;2TTA;2TTHA;2DDA;2DDHA;2NNA;
     2TA;2THA;2DA;2DHA;2NA;2PA;2PHA;2BA;2BHA;2MA;2YA;2RA;2LA;2VA;2SHA;2SSA;2SA;2HA;2LLA;
     1CONSONANT SIGN HAARU;1VOWEL SIGN AA;3I;3II;3U;3UU;3VOCALIC R;4RR;4L;4LL;3E;3EE;3AI;3O;3OO;3AU;
     1SIGN VIRAMA;2CANDRABINDU"),
   (0xA8CE, "SAURASHTRA DANDA;1DOUBLE/1;1DIGIT ZERO;2ONE;2TWO;2THREE;2FOUR;2FIVE;2SIX;2SEVEN;2EIGHT;
     2NINE"),
   (0xA8E0, "COMBINING DEVANAGARI DIGIT ZERO;3ONE;3TWO;3THREE;3FOUR;3FIVE;3SIX;3SEVEN;3EIGHT;3NINE;
     2LETTER A;3U;3KA;3NA;3PA;3RA;3VI;2SIGN AVAGRAHA;DEVANAGARI SIGN SPACING CANDRABINDU;
     2CANDRABINDU VIRAMA;2DOUBLE/2;2CANDRABINDU TWO;3THREE;3AVAGRAHA;2PUSHPIKA;1GAP FILLER;1CARET;
     1HEADSTROKE;1SIGN SIDDHAM;1JAIN OM;1LETTER AY;1VOWEL SIGN/1"),
   (0xA900, "KAYAH LI DIGIT ZERO;3ONE;3TWO;3THREE;3FOUR;3FIVE;3SIX;3SEVEN;3EIGHT;3NINE;2LETTER KA;
     3KHA;3GA;3NGA;3SA;3SHA;3ZA;3NYA;3TA;3HTA;3NA;3PA;3PHA;3MA;3DA;3BA;3RA;3YA;3LA;3WA;3THA;3HA;3VA;
     3CA;3A;3OE;3I;3OO;2VOWEL UE;3E;3U;3EE;3O;2TONE PLOPHU;3CALYA;4PLOPHU;2SIGN CWI;3SHYA;
     REJANG LETTER KA;2GA;2NGA;2TA;2DA;2NA;2PA;2BA;2MA;2CA;2JA;2NYA;2SA;2RA;2LA;2YA;2WA;2HA;2MBA;
     2NGGA;2NDA;2NYJA;2A;1VOWEL SIGN I;3U;3E;3AI;3O;3AU;3EU;3EA;1CONSONANT SIGN NG;3N;3R;3H;
     1VIRAMA"),
   (0xA95F, "REJANG SECTION MARK;HANGUL CHOSEONG TIKEUT-MIEUM;2TIKEUT-PIEUP;2TIKEUT-SIOS;
     2TIKEUT-CIEUC;2RIEUL-KIYEOK;2RIEUL-SSANGKIYEOK;2RIEUL-TIKEUT;2RIEUL-SSANGTIKEUT;2RIEUL-MIEUM;
     2RIEUL-PIEUP;2RIEUL-SSANGPIEUP;2RIEUL-KAPYEOUNPIEUP;2RIEUL-SIOS;2RIEUL-CIEUC;2RIEUL-KHIEUKH;
     2MIEUM-KIYEOK;2MIEUM-TIKEUT;2MIEUM-SIOS;2PIEUP-SIOS-THIEUTH;2PIEUP-KHIEUKH;2PIEUP-HIEUH;
     2SSANGSIOS-PIEUP;2IEUNG-RIEUL;2IEUNG-HIEUH;2SSANGCIEUC-HIEUH;2SSANGTHIEUTH;2PHIEUPH-HIEUH;
     2HIEUH-SIOS;2SSANGYEORINHIEUH"),
   (0xA980, "JAVANESE SIGN PANYANGGA;2CECAK;2LAYAR;2WIGNYAN;1LETTER A;2I KAWI;2I;2II;2U;2PA CEREK;
     2NGA LELET;4RASWADI;2E;2AI;2O;2KA;3SASAK;3MURDA;2GA;3MURDA;2NGA;2CA;3MURDA;2JA;2NYA MURDA;
     2JA MAHAPRANA;2NYA;2TTA;3MAHAPRANA;2DDA;3MAHAPRANA;2NA MURDA;2TA;3MURDA;2DA;3MAHAPRANA;2NA;2PA;
     3MURDA;2BA;3MURDA;2MA;2YA;2RA;3AGUNG;2LA;2WA;2SA MURDA;3MAHAPRANA;2SA;2HA;1SIGN CECAK TELU;
     1VOWEL SIGN TARUNG;3TOLONG;3WULU;4MELIK;3SUKU;4MENDUT;3TALING;3DIRGA MURE;3PEPET;
     1CONSONANT SIGN KERET;3PENGKAL;3CAKRA;1PANGKON;1LEFT RERENGGAN;1RIGHT/1;1PADA ANDAP;2MADYA;
     2LUHUR;2WINDU;2PANGKAT;2LINGSA;2LUNGSI;2ADEG;3ADEG;2PISELEH;1TURNED/2"),
   (0xA9CF, "JAVANESE PANGRANGKEP;1DIGIT ZERO;2ONE;2TWO;2THREE;2FOUR;2FIVE;2SIX;2SEVEN;2EIGHT;
     2NINE"),
   (0xA9DE, "JAVANESE PADA TIRTA TUMETES;2ISEN-ISEN;MYANMAR LETTER SHAN GHA;3CHA;3JHA;3NNA;3BHA;
     1SIGN SHAN SAW;1MODIFIER LETTER SHAN REDUPLICATION;1LETTER TAI LAING NYA;4FA;4GA;4GHA;4JA;4JHA;
     4DDA;4DDHA;4NNA;1TAI LAING DIGIT ZERO;4ONE;4TWO;4THREE;4FOUR;4FIVE;4SIX;4SEVEN;4EIGHT;4NINE;
     1LETTER TAI LAING LLA;4DA;4DHA;4BA;4BHA"),
   (0xAA00, "CHAM LETTER A;2I;2U;2E;2AI;2O;2KA;2KHA;2GA;2GHA;2NGUE;2NGA;2CHA;2CHHA;2JA;2JHA;2NHUE;
     2NHA;2NHJA;2TA;2THA;2DA;2DHA;2NUE;2NA;2DDA;2PA;2PPA;2PHA;2BA;2BHA;2MUE;2MA;2BBA;2YA;2RA;2LA;
     2VA;2SSA;2SA;2HA;1VOWEL SIGN AA;3I;3II;3EI;3U;3OE;3O;3AI;3AU;3UE;1CONSONANT SIGN YA;3RA;3LA;
     3WA"),
   (0xAA40, "CHAM LETTER FINAL K;3G;3NG;1CONSONANT SIGN/2;1LETTER FINAL CH;3T;3N;3P;3Y;3R;3L;3SS;
     1CONSONANT SIGN FINAL M;4H"),
   (0xAA50, "CHAM DIGIT ZERO;2ONE;2TWO;2THREE;2FOUR;2FIVE;2SIX;2SEVEN;2EIGHT;2NINE"),
   (0xAA5C, "CHAM PUNCTUATION SPIRAL;2DANDA;2DOUBLE/1;2TRIPLE/1;MYANMAR LETTER KHAMTI GA;3CA;3CHA;
     3JA;3JHA;3NYA;3TTA;3TTHA;3DDA;3DDHA;3DHA;3NA;3SA;3HA;3HHA;3FA;
     1MODIFIER LETTER KHAMTI REDUPLICATION;1LETTER KHAMTI XA;3ZA;3RA;1LOGOGRAM KHAMTI OAY;3QN;3HM;
     1SYMBOL AITON EXCLAMATION;3ONE;3TWO;1LETTER AITON RA;1SIGN PAO KAREN TONE;2TAI LAING TONE-2;
     4TONE-5;1LETTER SHWE PALAUNG CHA;4SHA;TAI VIET LETTER LOW KO;3HIGH/1;3LOW KHO;3HIGH/1;
     3LOW KHHO;3HIGH/1;3LOW GO;3HIGH/1;3LOW NGO;3HIGH/1;3LOW CO;3HIGH/1;3LOW CHO;3HIGH/1;3LOW SO;
     3HIGH/1;3LOW NYO;3HIGH/1;3LOW DO;3HIGH/1;3LOW TO;3HIGH/1;3LOW THO;3HIGH/1;3LOW NO;3HIGH/1;
     3LOW BO;3HIGH/1;3LOW PO;3HIGH/1;3LOW PHO;3HIGH/1;3LOW FO;3HIGH/1;3LOW MO;3HIGH/1;3LOW YO;
     3HIGH/1;3LOW RO;3HIGH/1;3LOW LO;3HIGH/1;3LOW VO;3HIGH/1;3LOW HO;3HIGH/1;3LOW O;3HIGH O;
     2MAI KANG;2VOWEL AA;3I;3UE;3U;3E;3O;2MAI KHIT;2VOWEL IA;3UEA;3UA;3AUE;3AY;3AN;3AM;2TONE MAI EK;
     4NUENG;4THO;4SONG"),
   (0xAADB, "TAI VIET SYMBOL KON;3NUENG;3SAM;3HO HOI;3KOI KOI;MEETEI MAYEK LETTER E;3O;3CHA;3NYA;
     3TTA;3TTHA;3DDA;3DDHA;3NNA;3SHA;3SSA;2VOWEL SIGN II;4UU;4AAI;4AU;4AAU;2CHEIKHAN;2AHANG KHUDAM;
     2ANJI;2SYLLABLE REPETITION MARK;2WORD/2;2VOWEL SIGN VISARGA;2VIRAMA"),
   (0xAB01, "ETHIOPIC SYLLABLE TTHU;2TTHI;2TTHAA;2TTHEE;2TTHE;2TTHO"),
   (0xAB09, "ETHIOPIC SYLLABLE DDHU;2DDHI;2DDHAA;2DDHEE;2DDHE;2DDHO"),
   (0xAB11, "ETHIOPIC SYLLABLE DZU;2DZI;2DZAA;2DZEE;2DZE;2DZO"),
   (0xAB20, "ETHIOPIC SYLLABLE CCHHA;2CCHHU;2CCHHI;2CCHHAA;2CCHHEE;2CCHHE;2CCHHO"),
   (0xAB28, "ETHIOPIC SYLLABLE BBA;2BBU;2BBI;2BBAA;2BBEE;2BBE;2BBO"),
   (0xAB30, "LATIN SMALL LETTER BARRED ALPHA;3A REVERSED-SCHWA;3BLACKLETTER E;3BARRED E;
     3E WITH FLOURISH;3LENIS F;3SCRIPT G WITH CROSSED-TAIL;3L WITH INVERTED LAZY S;
     5DOUBLE MIDDLE TILDE;5MIDDLE RING;3M WITH CROSSED-TAIL;3N/2;3ENG/2;3BLACKLETTER O;5WITH STROKE;
     3OPEN/3;3INVERTED OE;3TURNED OE WITH STROKE;6HORIZONTAL/1;4O OPEN-O;6WITH STROKE;3STIRRUP R;
     1LETTER SMALL CAPITAL R WITH RIGHT LEG;1SMALL LETTER R WITHOUT HANDLE;3DOUBLE R;
     3R WITH CROSSED-TAIL;3DOUBLE/3;3SCRIPT R;5WITH RING;3BASELINE ESH;3U WITH SHORT RIGHT LEG;
     4BAR/4;3UI;3TURNED/1;3U WITH LEFT HOOK;3CHI;4WITH LOW RIGHT RING;6LEFT SERIF;
     3X WITH LOW RIGHT RING;5LONG LEFT LEG;8AND LOW RIGHT RING;8WITH SERIF;3Y WITH SHORT RIGHT LEG;
     MODIFIER BREVE WITH INVERTED BREVE;1LETTER SMALL HENG;3L WITH INVERTED LAZY S;5MIDDLE TILDE;
     3U WITH LEFT HOOK;LATIN SMALL LETTER SAKHA YAT;3IOTIFIED E;3OPEN OE;3UO;3INVERTED ALPHA;
     GREEK LETTER SMALL CAPITAL OMEGA;LATIN SMALL LETTER DZ DIGRAPH WITH RETROFLEX HOOK;3TS/4;
     3TURNED R WITH MIDDLE TILDE;MODIFIER LETTER SMALL TURNED W;2LEFT TACK;2RIGHT/1"),
   (0xAB70, "CHEROKEE SMALL LETTER A;3E;3I;3O;3U;+1;3GA;3KA;3GE;3GI;3GO;3GU;+1;3HA;3HE;3HI;3HO;3HU;
     +1;3LA;3LE;3LI;3LO;3LU;+1;3MA;3ME;3MI;3MO;3MU;3NA;3HNA;3NAH;3NE;3NI;3NO;3NU;+1;3QUA;3QUE;3QUI;
     3QUO;3QUU;+1;3SA;3S;3SE;3SI;3SO;3SU;+1;3DA;3TA;3DE;3TE;3DI;3TI;3DO;3DU;+1;3DLA;3TLA;3TLE;3TLI;
     3TLO;3TLU;+1;3TSA;3TSE;3TSI;3TSO;3TSU;+1;3WA;3WE;3WI;3WO;3WU;+1;3YA;MEETEI MAYEK LETTER KOK;
     3SAM;3LAI;3MIT;3PA;3NA;3CHIL;3TIL;3KHOU;3NGOU;3THOU;3WAI;3YANG;3HUK;3UN;3I;3PHAM;3ATIYA;3GOK;
     3JHAM;3RAI;3BA;3JIL;3DIL;3GHOU;3DHOU;3BHAM;3KOK LONSUM;3LAI/1;3MIT/1;3PA/1;3NA/1;3TIL/1;
     3NGOU/1;3I/1;2VOWEL SIGN ONAP;4INAP;4ANAP;4YENAP;4SOUNAP;4UNAP;4CHEINAP;4NUNG;2CHEIKHEI;
     2LUM IYEK;2APUN/1"),
   (0xABF0, "MEETEI MAYEK DIGIT ZERO;3ONE;3TWO;3THREE;3FOUR;3FIVE;3SIX;3SEVEN;3EIGHT;3NINE"),
   (0xD7B0, "HANGUL JUNGSEONG O-YEO;2O-O-I;2YO-A;2YO-AE;2YO-EO;2U-YEO;2U-I-I;2YU-AE;2YU-O;2EU-A;
     2EU-EO;2EU-E;2EU-O;2I-YA-O;2I-YAE;2I-YEO;2I-YE;2I-O-I;2I-YO;2I-YU;2I-I;2ARAEA-A;2ARAEA-E"),
   (0xD7CB, "HANGUL JONGSEONG NIEUN-RIEUL;2NIEUN-CHIEUCH;2SSANGTIKEUT;2SSANGTIKEUT-PIEUP;
     2TIKEUT-PIEUP;2TIKEUT-SIOS;2TIKEUT-SIOS-KIYEOK;2TIKEUT-CIEUC;2TIKEUT-CHIEUCH;2TIKEUT-THIEUTH;
     2RIEUL-SSANGKIYEOK;2RIEUL-KIYEOK-HIEUH;2SSANGRIEUL-KHIEUKH;2RIEUL-MIEUM-HIEUH;
     2RIEUL-PIEUP-TIKEUT;2RIEUL-PIEUP-PHIEUPH;2RIEUL-YESIEUNG;2RIEUL-YEORINHIEUH-HIEUH;
     2KAPYEOUNRIEUL;2MIEUM-NIEUN;2MIEUM-SSANGNIEUN;2SSANGMIEUM;2MIEUM-PIEUP-SIOS;2MIEUM-CIEUC;
     2PIEUP-TIKEUT;2PIEUP-RIEUL-PHIEUPH;2PIEUP-MIEUM;2SSANGPIEUP;2PIEUP-SIOS-TIKEUT;2PIEUP-CIEUC;
     2PIEUP-CHIEUCH;2SIOS-MIEUM;2SIOS-KAPYEOUNPIEUP;2SSANGSIOS-KIYEOK;2SSANGSIOS-TIKEUT;
     2SIOS-PANSIOS;2SIOS-CIEUC;2SIOS-CHIEUCH;2SIOS-THIEUTH;2SIOS-HIEUH;2PANSIOS-PIEUP;
     2PANSIOS-KAPYEOUNPIEUP;2YESIEUNG-MIEUM;2YESIEUNG-HIEUH;2CIEUC-PIEUP;2CIEUC-SSANGPIEUP;
     2SSANGCIEUC;2PHIEUPH-SIOS;2PHIEUPH-THIEUTH"),
   (0xFB00, "LATIN SMALL LIGATURE FF;3FI;3FL;3FFI;3FFL;3LONG S T;3ST"),
   (0xFB13, "ARMENIAN SMALL LIGATURE MEN NOW;4ECH;4INI;3VEW NOW;3MEN XEH"),
   (0xFB1D, "HEBREW LETTER YOD WITH HIRIQ;1POINT JUDEO-SPANISH VARIKA;
     1LIGATURE YIDDISH YOD YOD PATAH;1LETTER ALTERNATIVE AYIN;2WIDE ALEF;3DALET;3HE;3KAF;3LAMED;
     3FINAL MEM;3RESH;3TAV;2ALTERNATIVE PLUS SIGN;2SHIN WITH SHIN DOT;4SIN/1;4DAGESH AND SHIN/1;
     6SIN/1;2ALEF WITH PATAH;4QAMATS;4MAPIQ;2BET WITH DAGESH;2GIMEL/2;2DALET/2;2HE WITH MAPIQ;
     2VAV WITH DAGESH;2ZAYIN/2"),
   (0xFB38, "HEBREW LETTER TET WITH DAGESH;2YOD/2;2FINAL KAF/2;2KAF/2;2LAMED/2"),
   (0xFB3E, "HEBREW LETTER MEM WITH DAGESH"),
   (0xFB40, "HEBREW LETTER NUN WITH DAGESH;2SAMEKH/2"),
   (0xFB43, "HEBREW LETTER FINAL PE WITH DAGESH;2PE/2"),
   (0xFB46, "HEBREW LETTER TSADI WITH DAGESH;2QOF/2;2RESH/2;2SHIN/2;2TAV/2;2VAV WITH HOLAM;
     2BET WITH RAFE;2KAF/2;2PE/2;1LIGATURE ALEF LAMED;ARABIC LETTER ALEF WASLA ISOLATED FORM;
     4FINAL/1;2BEEH ISOLATED/1;3FINAL/1;3INITIAL/1;3MEDIAL/1;2PEH ISOLATED/1;3FINAL/1;3INITIAL/1;
     3MEDIAL/1;2BEHEH ISOLATED/1;3FINAL/1;3INITIAL/1;3MEDIAL/1;2TTEHEH ISOLATED/1;3FINAL/1;
     3INITIAL/1;3MEDIAL/1;2TEHEH ISOLATED/1;3FINAL/1;3INITIAL/1;3MEDIAL/1;2TTEH ISOLATED/1;3FINAL/1;
     3INITIAL/1;3MEDIAL/1;2VEH ISOLATED/1;3FINAL/1;3INITIAL/1;3MEDIAL/1;2PEHEH ISOLATED/1;3FINAL/1;
     3INITIAL/1;3MEDIAL/1;2DYEH ISOLATED/1;3FINAL/1;3INITIAL/1;3MEDIAL/1;2NYEH ISOLATED/1;3FINAL/1;
     3INITIAL/1;3MEDIAL/1;2TCHEH ISOLATED/1;3FINAL/1;3INITIAL/1;3MEDIAL/1;2TCHEHEH ISOLATED/1;
     3FINAL/1;3INITIAL/1;3MEDIAL/1;2DDAHAL ISOLATED/1;3FINAL/1;2DAHAL ISOLATED/1;3FINAL/1;
     2DUL ISOLATED/1;3FINAL/1;2DDAL ISOLATED/1;3FINAL/1;2JEH ISOLATED/1;3FINAL/1;2RREH ISOLATED/1;
     3FINAL/1;2KEHEH ISOLATED/1;3FINAL/1;3INITIAL/1;3MEDIAL/1;2GAF ISOLATED/1;3FINAL/1;3INITIAL/1;
     3MEDIAL/1;2GUEH ISOLATED/1;3FINAL/1;3INITIAL/1;3MEDIAL/1;2NGOEH ISOLATED/1;3FINAL/1;3INITIAL/1;
     3MEDIAL/1;2NOON GHUNNA ISOLATED/1;4FINAL/1;2RNOON ISOLATED/1;3FINAL/1;3INITIAL/1;3MEDIAL/1;
     2HEH WITH YEH ABOVE ISOLATED/1;6FINAL/1;3GOAL ISOLATED/1;4FINAL/1;4INITIAL/1;4MEDIAL/1;
     3DOACHASHMEE ISOLATED/1;4FINAL/1;4INITIAL/1;4MEDIAL/1;2YEH BARREE ISOLATED/1;4FINAL/1;
     4WITH HAMZA ABOVE ISOLATED/1;7FINAL/1;1SYMBOL DOT ABOVE;3BELOW;2TWO DOTS ABOVE;4BELOW;
     2THREE DOTS ABOVE;4BELOW;4POINTING DOWNWARDS ABOVE;6BELOW;2FOUR DOTS ABOVE;4BELOW;
     2DOUBLE VERTICAL BAR/1;2TWO DOTS VERTICALLY ABOVE;5BELOW;2RING;2SMALL TAH ABOVE;4BELOW;
     2WASLA ABOVE"),
   (0xFBD3, "ARABIC LETTER NG ISOLATED FORM;3FINAL/1;3INITIAL/1;3MEDIAL/1;2U ISOLATED/1;3FINAL/1;
     2OE ISOLATED/1;3FINAL/1;2YU ISOLATED/1;3FINAL/1;2U WITH HAMZA ABOVE ISOLATED/1;2VE/2;3FINAL/1;
     2KIRGHIZ OE ISOLATED/1;4FINAL/1;3YU ISOLATED/1;4FINAL/1;2E ISOLATED/1;3FINAL/1;3INITIAL/1;
     3MEDIAL/1;2UIGHUR KAZAKH KIRGHIZ ALEF MAKSURA INITIAL/1;7MEDIAL/1;
     1LIGATURE YEH WITH HAMZA ABOVE WITH ALEF ISOLATED/1;8FINAL/1;7AE ISOLATED/1;8FINAL/1;
     7WAW ISOLATED/1;8FINAL/1;7U ISOLATED/1;8FINAL/1;7OE ISOLATED/1;8FINAL/1;7YU ISOLATED/1;
     8FINAL/1;7E ISOLATED/1;8FINAL/1;8INITIAL/1;
     2UIGHUR KIRGHIZ YEH WITH HAMZA ABOVE WITH ALEF MAKSURA ISOLATED/1;9ALEF MAKSURA FINAL/1;
     9ALEF MAKSURA INITIAL/1;1LETTER FARSI YEH ISOLATED/1;4FINAL/1;4INITIAL/1;4MEDIAL/1"),
   (0xFC00, "ARABIC LIGATURE YEH WITH HAMZA ABOVE WITH JEEM ISOLATED FORM;7HAH/2;7MEEM/2;
     7ALEF MAKSURA/2;7YEH/2;2BEH WITH JEEM/2;4HAH/2;4KHAH/2;4MEEM/2;4ALEF MAKSURA/2;4YEH/2;
     2TEH WITH JEEM/2;4HAH/2;4KHAH/2;4MEEM/2;4ALEF MAKSURA/2;4YEH/2;2THEH WITH JEEM/2;4MEEM/2;
     4ALEF MAKSURA/2;4YEH/2;2JEEM WITH HAH/2;4MEEM/2;2HAH WITH JEEM/2;4MEEM/2;2KHAH WITH JEEM/2;
     4HAH/2;4MEEM/2;2SEEN WITH JEEM/2;4HAH/2;4KHAH/2;4MEEM/2;2SAD WITH HAH/2;4MEEM/2;
     2DAD WITH JEEM/2;4HAH/2;4KHAH/2;4MEEM/2;2TAH WITH HAH/2;4MEEM/2;2ZAH/4;2AIN WITH JEEM/2;
     4MEEM/2;2GHAIN WITH JEEM/2;4MEEM/2;2FEH WITH JEEM/2;4HAH/2;4KHAH/2;4MEEM/2;4ALEF MAKSURA/2;
     4YEH/2;2QAF WITH HAH/2;4MEEM/2;4ALEF MAKSURA/2;4YEH/2;2KAF WITH ALEF/2;4JEEM/2;4HAH/2;4KHAH/2;
     4LAM/2;4MEEM/2;4ALEF MAKSURA/2;4YEH/2;2LAM WITH JEEM/2;4HAH/2;4KHAH/2;4MEEM/2;4ALEF MAKSURA/2;
     4YEH/2;2MEEM WITH JEEM/2;4HAH/2;4KHAH/2;4MEEM/2;4ALEF MAKSURA/2;4YEH/2;2NOON WITH JEEM/2;
     4HAH/2;4KHAH/2;4MEEM/2;4ALEF MAKSURA/2;4YEH/2;2HEH WITH JEEM/2;4MEEM/2;4ALEF MAKSURA/2;4YEH/2;
     2YEH WITH JEEM/2;4HAH/2;4KHAH/2;4MEEM/2;4ALEF MAKSURA/2;4YEH/2;2THAL WITH SUPERSCRIPT ALEF/2;
     2REH/5;2ALEF MAKSURA/5;2SHADDA WITH DAMMATAN/2;4KASRATAN/2;4FATHA/2;4DAMMA/2;4KASRA/2;
     4SUPERSCRIPT ALEF/2;2YEH WITH HAMZA ABOVE WITH REH FINAL/1;7ZAIN/2;7MEEM/2;7NOON/2;
     7ALEF MAKSURA/2;7YEH/2;2BEH WITH REH/2;4ZAIN/2;4MEEM/2;4NOON/2;4ALEF MAKSURA/2;4YEH/2;
     2TEH WITH REH/2;4ZAIN/2;4MEEM/2;4NOON/2;4ALEF MAKSURA/2;4YEH/2;2THEH WITH REH/2;4ZAIN/2;
     4MEEM/2;4NOON/2;4ALEF MAKSURA/2;4YEH/2;2FEH WITH ALEF MAKSURA/2;4YEH/2;
     2QAF WITH ALEF MAKSURA/2;4YEH/2;2KAF WITH ALEF/2;4LAM/2;4MEEM/2;4ALEF MAKSURA/2;4YEH/2;
     2LAM WITH MEEM/2;4ALEF MAKSURA/2;4YEH/2;2MEEM WITH ALEF/2;4MEEM/2;2NOON WITH REH/2;4ZAIN/2;
     4MEEM/2;4NOON/2;4ALEF MAKSURA/2;4YEH/2;2ALEF MAKSURA WITH SUPERSCRIPT ALEF/2;2YEH WITH REH/2;
     4ZAIN/2;4MEEM/2;4NOON/2;4ALEF MAKSURA/2;4YEH/2;4HAMZA ABOVE WITH JEEM INITIAL/1;7HAH/2;7KHAH/2;
     7MEEM/2;7HEH/2;2BEH WITH JEEM/2;4HAH/2;4KHAH/2;4MEEM/2;4HEH/2;2TEH WITH JEEM/2;4HAH/2;4KHAH/2;
     4MEEM/2;4HEH/2;2THEH WITH MEEM/2;2JEEM WITH HAH/2;4MEEM/2;2HAH WITH JEEM/2;4MEEM/2;
     2KHAH WITH JEEM/2;4MEEM/2;2SEEN WITH JEEM/2;4HAH/2;4KHAH/2;4MEEM/2;2SAD WITH HAH/2;4KHAH/2;
     4MEEM/2;2DAD WITH JEEM/2;4HAH/2;4KHAH/2;4MEEM/2;2TAH WITH HAH/2;2ZAH WITH MEEM/2;
     2AIN WITH JEEM/2;4MEEM/2;2GHAIN WITH JEEM/2;4MEEM/2;2FEH WITH JEEM/2;4HAH/2;4KHAH/2;4MEEM/2;
     2QAF WITH HAH/2;4MEEM/2;2KAF WITH JEEM/2;4HAH/2;4KHAH/2;4LAM/2;4MEEM/2;2LAM WITH JEEM/2;4HAH/2;
     4KHAH/2;4MEEM/2;4HEH/2;2MEEM WITH JEEM/2;4HAH/2;4KHAH/2;4MEEM/2;2NOON WITH JEEM/2;4HAH/2;
     4KHAH/2;4MEEM/2;4HEH/2;2HEH WITH JEEM/2;4MEEM/2;4SUPERSCRIPT ALEF/2;2YEH WITH JEEM/2;4HAH/2;
     4KHAH/2;4MEEM/2;4HEH/2;4HAMZA ABOVE WITH MEEM MEDIAL/1;7HEH/2;2BEH WITH MEEM/2;4HEH/2;
     2TEH WITH MEEM/2;4HEH/2;2THEH WITH MEEM/2;4HEH/2;2SEEN WITH MEEM/2;4HEH/2;2SHEEN WITH MEEM/2;
     4HEH/2;2KAF WITH LAM/2;4MEEM/2;2LAM/4;2NOON/4;4HEH/2;2YEH WITH MEEM/2;4HEH/2;
     2SHADDA WITH FATHA/2;4DAMMA/2;4KASRA/2;2TAH WITH ALEF MAKSURA ISOLATED/1;4YEH/2;
     2AIN WITH ALEF MAKSURA/2;4YEH/2;2GHAIN WITH ALEF MAKSURA/2;4YEH/2;2SEEN WITH ALEF MAKSURA/2;
     4YEH/2;2SHEEN WITH ALEF MAKSURA/2;4YEH/2;2HAH WITH ALEF MAKSURA/2"),
   (0xFD00, "ARABIC LIGATURE HAH WITH YEH ISOLATED FORM;2JEEM WITH ALEF MAKSURA/2;4YEH/2;
     2KHAH WITH ALEF MAKSURA/2;4YEH/2;2SAD WITH ALEF MAKSURA/2;4YEH/2;2DAD WITH ALEF MAKSURA/2;
     4YEH/2;2SHEEN WITH JEEM/2;4HAH/2;4KHAH/2;4MEEM/2;4REH/2;2SEEN/4;2SAD/4;2DAD/4;
     2TAH WITH ALEF MAKSURA FINAL/1;4YEH/2;2AIN WITH ALEF MAKSURA/2;4YEH/2;
     2GHAIN WITH ALEF MAKSURA/2;4YEH/2;2SEEN WITH ALEF MAKSURA/2;4YEH/2;2SHEEN WITH ALEF MAKSURA/2;
     4YEH/2;2HAH WITH ALEF MAKSURA/2;4YEH/2;2JEEM WITH ALEF MAKSURA/2;4YEH/2;
     2KHAH WITH ALEF MAKSURA/2;4YEH/2;2SAD WITH ALEF MAKSURA/2;4YEH/2;2DAD WITH ALEF MAKSURA/2;
     4YEH/2;2SHEEN WITH JEEM/2;4HAH/2;4KHAH/2;4MEEM/2;4REH/2;2SEEN/4;2SAD/4;2DAD/4;
     2SHEEN WITH JEEM INITIAL/1;4HAH/2;4KHAH/2;4MEEM/2;2SEEN WITH HEH/2;2SHEEN/4;2TAH WITH MEEM/2;
     2SEEN WITH JEEM MEDIAL/1;4HAH/2;4KHAH/2;2SHEEN WITH JEEM/2;4HAH/2;4KHAH/2;2TAH WITH MEEM/2;
     2ZAH/4;2ALEF WITH FATHATAN FINAL/1;5ISOLATED/1;ORNATE LEFT PARENTHESIS;1RIGHT/1;
     ARABIC LIGATURE RAHIMAHU ALLAAH;2RADI ALLAAHU ANH;4ANHAA;4ANHUM;4ANHUMAA;4ANHUNNA;
     2SALLALLAAHU ALAYHI WA-AALIH;2ALAYHI AS-SALAAM;2ALAYHIM/1;2ALAYHIMAA/1;
     2ALAYHI AS-SALAATU WAS-SALAAM;2QUDDISA SIRRAH;2SALLALLAHU ALAYHI WAAALIHEE WA-SALLAM;
     2ALAYHAA AS-SALAAM;2TABAARAKA WA-TAAALAA;2RAHIMAHUM ALLAAH;
     2TEH WITH JEEM WITH MEEM INITIAL FORM;4HAH WITH JEEM FINAL/1;7INITIAL/1;6MEEM/2;4KHAH/4;
     4MEEM WITH JEEM/2;6HAH/2;6KHAH/2;2JEEM WITH MEEM WITH HAH FINAL/1;7INITIAL/1;
     2HAH WITH MEEM WITH YEH FINAL/1;6ALEF MAKSURA/2;2SEEN WITH HAH WITH JEEM INITIAL/1;
     4JEEM WITH HAH/2;6ALEF MAKSURA FINAL/1;4MEEM WITH HAH/2;7INITIAL/1;6JEEM/2;6MEEM FINAL/1;
     7INITIAL/1;2SAD WITH HAH WITH HAH FINAL/1;7INITIAL/1;4MEEM WITH MEEM FINAL/1;2SHEEN WITH HAH/4;
     7INITIAL/1;4JEEM WITH YEH FINAL/1;4MEEM WITH KHAH/2;7INITIAL/1;6MEEM FINAL/1;7INITIAL/1;
     2DAD WITH HAH WITH ALEF MAKSURA FINAL/1;4KHAH WITH MEEM/2;7INITIAL/1;
     2TAH WITH MEEM WITH HAH FINAL/1;7INITIAL/1;6MEEM/2;6YEH FINAL/1;2AIN WITH JEEM WITH MEEM/2;
     4MEEM/4;7INITIAL/1;6ALEF MAKSURA FINAL/1;2GHAIN WITH MEEM WITH MEEM/2;6YEH/2;6ALEF MAKSURA/2;
     2FEH WITH KHAH WITH MEEM/2;7INITIAL/1;2QAF WITH MEEM WITH HAH FINAL/1;6MEEM/2;2LAM WITH HAH/4;
     6YEH/2;6ALEF MAKSURA/2;4JEEM WITH JEEM INITIAL/1;7FINAL/1;4KHAH WITH MEEM/2;7INITIAL/1;
     4MEEM WITH HAH FINAL/1;7INITIAL/1;2MEEM WITH HAH WITH JEEM/2;6MEEM/2;6YEH FINAL/1;
     4JEEM WITH HAH INITIAL/1;6MEEM/2;4KHAH WITH JEEM/2;6MEEM/2"),
   (0xFD92, "ARABIC LIGATURE MEEM WITH JEEM WITH KHAH INITIAL FORM;2HEH WITH MEEM WITH JEEM/2;
     6MEEM/2;2NOON WITH HAH/4;6ALEF MAKSURA FINAL/1;4JEEM WITH MEEM/2;7INITIAL/1;
     6ALEF MAKSURA FINAL/1;4MEEM WITH YEH/2;6ALEF MAKSURA/2;2YEH WITH MEEM WITH MEEM/2;7INITIAL/1;
     2BEH WITH KHAH WITH YEH FINAL/1;2TEH WITH JEEM/4;6ALEF MAKSURA/2;4KHAH WITH YEH/2;
     6ALEF MAKSURA/2;4MEEM WITH YEH/2;6ALEF MAKSURA/2;2JEEM WITH MEEM WITH YEH/2;
     4HAH WITH ALEF MAKSURA/2;4MEEM/5;2SEEN WITH KHAH/5;2SAD WITH HAH WITH YEH/2;2SHEEN/6;2DAD/6;
     2LAM WITH JEEM/4;4MEEM/4;2YEH WITH HAH/4;4JEEM/4;4MEEM/4;2MEEM/6;2QAF/6;2NOON WITH HAH/4;
     2QAF WITH MEEM WITH HAH INITIAL/1;2LAM WITH HAH WITH MEEM/2;2AIN WITH MEEM WITH YEH FINAL/1;
     2KAF/6;2NOON WITH JEEM WITH HAH INITIAL/1;2MEEM WITH KHAH WITH YEH FINAL/1;
     2LAM WITH JEEM WITH MEEM INITIAL/1;2KAF WITH MEEM WITH MEEM FINAL/1;2LAM WITH JEEM/4;
     2NOON WITH JEEM WITH HAH/2;2JEEM WITH HAH WITH YEH/2;2HAH WITH JEEM/4;2MEEM/6;2FEH WITH MEEM/4;
     2BEH WITH HAH/4;2KAF WITH MEEM WITH MEEM INITIAL/1;2AIN WITH JEEM/4;2SAD WITH MEEM/4;
     2SEEN WITH KHAH WITH YEH FINAL/1;2NOON WITH JEEM/4"),
   (0xFDCF, "ARABIC LIGATURE SALAAMUHU ALAYNAA"),
   (0xFDF0, "ARABIC LIGATURE SALLA USED AS KORANIC STOP SIGN ISOLATED FORM;2QALA/7;2ALLAH/2;
     2AKBAR/2;2MOHAMMAD/2;2SALAM/2;2RASOUL/2;2ALAYHE/2;2WASALLAM/2;2SALLA/2;
     2SALLALLAHOU ALAYHE WASALLAM;2JALLAJALALOUHOU;RIAL SIGN;
     ARABIC LIGATURE BISMILLAH AR-RAHMAN AR-RAHEEM;2SUBHAANAHU WA TAAALAA;2AZZA WA JALL"),
   (0xFE00, "VARIATION SELECTOR-1;+15;PRESENTATION FORM FOR VERTICAL COMMA;4IDEOGRAPHIC/1;
     5FULL STOP;4COLON;4SEMICOLON;4EXCLAMATION MARK;4QUESTION/1;4LEFT WHITE LENTICULAR BRACKET;
     4RIGHT WHITE LENTICULAR BRAKCET;4HORIZONTAL ELLIPSIS"),
   (0xFE20, "COMBINING LIGATURE LEFT HALF;2RIGHT/1;1DOUBLE TILDE LEFT/1;3RIGHT/1;1MACRON LEFT/1;
     2RIGHT/1;1CONJOINING MACRON;1LIGATURE LEFT HALF BELOW;2RIGHT/2;1TILDE LEFT/2;2RIGHT/2;
     1MACRON LEFT/2;2RIGHT/2;1CONJOINING MACRON/1;1CYRILLIC TITLO LEFT HALF;3RIGHT/1;
     PRESENTATION FORM FOR VERTICAL TWO DOT LEADER;4EM DASH;4EN/1;4LOW LINE;4WAVY/2;
     4LEFT PARENTHESIS;4RIGHT/1;4LEFT CURLY BRACKET;4RIGHT/2;4LEFT TORTOISE SHELL/1;4RIGHT/3;
     4LEFT BLACK LENTICULAR/1;4RIGHT/3;4LEFT DOUBLE ANGLE/1;4RIGHT/3;4LEFT/2;4RIGHT/2;
     4LEFT CORNER/1;4RIGHT/2;4LEFT WHITE/2;4RIGHT/3;SESAME DOT;WHITE/2;
     PRESENTATION FORM FOR VERTICAL LEFT SQUARE BRACKET;4RIGHT/2;DASHED OVERLINE;CENTRELINE/1;
     WAVY/1;DOUBLE/2;DASHED LOW LINE;CENTRELINE/2;WAVY/2;SMALL COMMA;1IDEOGRAPHIC/1;1FULL STOP"),
   (0xFE54, "SMALL SEMICOLON;1COLON;1QUESTION MARK;1EXCLAMATION/1;1EM DASH;1LEFT PARENTHESIS;
     1RIGHT/1;1LEFT CURLY BRACKET;1RIGHT/2;1LEFT TORTOISE SHELL/1;1RIGHT/3;1NUMBER SIGN;1AMPERSAND;
     1ASTERISK;1PLUS SIGN;1HYPHEN-MINUS;1LESS-THAN SIGN;1GREATER-THAN/1;1EQUALS/1"),
   (0xFE68, "SMALL REVERSE SOLIDUS;1DOLLAR SIGN;1PERCENT/1;1COMMERCIAL AT"),
   (0xFE70, "ARABIC FATHATAN ISOLATED FORM;1TATWEEL WITH FATHATAN ABOVE;1DAMMATAN ISOLATED FORM;
     1TAIL FRAGMENT;1KASRATAN ISOLATED FORM"),
   (0xFE76, "ARABIC FATHA ISOLATED FORM;2MEDIAL/1;1DAMMA ISOLATED/1;2MEDIAL/1;1KASRA ISOLATED/1;
     2MEDIAL/1;1SHADDA ISOLATED/1;2MEDIAL/1;1SUKUN ISOLATED/1;2MEDIAL/1;1LETTER HAMZA ISOLATED/1;
     2ALEF WITH MADDA ABOVE/2;6FINAL/1;4HAMZA ABOVE ISOLATED/1;6FINAL/1;
     2WAW WITH HAMZA ABOVE ISOLATED/1;6FINAL/1;2ALEF WITH HAMZA BELOW ISOLATED/1;6FINAL/1;
     2YEH WITH HAMZA ABOVE ISOLATED/1;6FINAL/1;6INITIAL/1;6MEDIAL/1;2ALEF ISOLATED/1;3FINAL/1;
     2BEH ISOLATED/1;3FINAL/1;3INITIAL/1;3MEDIAL/1;2TEH MARBUTA ISOLATED/1;4FINAL/1;3ISOLATED/1;
     3FINAL/1;3INITIAL/1;3MEDIAL/1;2THEH ISOLATED/1;3FINAL/1;3INITIAL/1;3MEDIAL/1;2JEEM ISOLATED/1;
     3FINAL/1;3INITIAL/1;3MEDIAL/1;2HAH ISOLATED/1;3FINAL/1;3INITIAL/1;3MEDIAL/1;2KHAH ISOLATED/1;
     3FINAL/1;3INITIAL/1;3MEDIAL/1;2DAL ISOLATED/1;3FINAL/1;2THAL ISOLATED/1;3FINAL/1;
     2REH ISOLATED/1;3FINAL/1;2ZAIN ISOLATED/1;3FINAL/1;2SEEN ISOLATED/1;3FINAL/1;3INITIAL/1;
     3MEDIAL/1;2SHEEN ISOLATED/1;3FINAL/1;3INITIAL/1;3MEDIAL/1;2SAD ISOLATED/1;3FINAL/1;3INITIAL/1;
     3MEDIAL/1;2DAD ISOLATED/1;3FINAL/1;3INITIAL/1;3MEDIAL/1;2TAH ISOLATED/1;3FINAL/1;3INITIAL/1;
     3MEDIAL/1;2ZAH ISOLATED/1;3FINAL/1;3INITIAL/1;3MEDIAL/1;2AIN ISOLATED/1;3FINAL/1;3INITIAL/1;
     3MEDIAL/1;2GHAIN ISOLATED/1;3FINAL/1;3INITIAL/1;3MEDIAL/1;2FEH ISOLATED/1;3FINAL/1;3INITIAL/1;
     3MEDIAL/1;2QAF ISOLATED/1;3FINAL/1;3INITIAL/1;3MEDIAL/1;2KAF ISOLATED/1;3FINAL/1;3INITIAL/1;
     3MEDIAL/1;2LAM ISOLATED/1;3FINAL/1;3INITIAL/1;3MEDIAL/1;2MEEM ISOLATED/1;3FINAL/1;3INITIAL/1;
     3MEDIAL/1;2NOON ISOLATED/1;3FINAL/1;3INITIAL/1;3MEDIAL/1;2HEH ISOLATED/1;3FINAL/1;3INITIAL/1;
     3MEDIAL/1;2WAW ISOLATED/1;3FINAL/1;2ALEF MAKSURA ISOLATED/1;4FINAL/1;2YEH ISOLATED/1;3FINAL/1;
     3INITIAL/1;3MEDIAL/1;1LIGATURE LAM WITH ALEF WITH MADDA ABOVE ISOLATED/1;8FINAL/1;
     6HAMZA ABOVE ISOLATED/1;8FINAL/1;7BELOW ISOLATED/1;8FINAL/1;5ISOLATED/1;5FINAL/1"),
   (0xFEFF, "ZERO WIDTH NO-BREAK SPACE"),
   (0xFF01, "FULLWIDTH EXCLAMATION MARK;1QUOTATION/1;1NUMBER SIGN;1DOLLAR/1;1PERCENT/1;1AMPERSAND;
     1APOSTROPHE;1LEFT PARENTHESIS;1RIGHT/1;1ASTERISK;1PLUS SIGN;1COMMA;1HYPHEN-MINUS;1FULL STOP;
     1SOLIDUS;1DIGIT ZERO;2ONE;2TWO;2THREE;2FOUR;2FIVE;2SIX;2SEVEN;2EIGHT;2NINE;1COLON;1SEMICOLON;
     1LESS-THAN SIGN;1EQUALS/1;1GREATER-THAN/1;1QUESTION MARK;1COMMERCIAL AT;
     1LATIN CAPITAL LETTER A;+25;1LEFT SQUARE BRACKET;1REVERSE SOLIDUS;1RIGHT SQUARE BRACKET;
     1CIRCUMFLEX ACCENT;1LOW LINE;1GRAVE ACCENT;1LATIN SMALL LETTER A;+25;1LEFT CURLY BRACKET;
     1VERTICAL LINE;1RIGHT CURLY BRACKET;1TILDE;1LEFT WHITE PARENTHESIS;1RIGHT/2;
     HALFWIDTH IDEOGRAPHIC FULL STOP;1LEFT CORNER BRACKET;1RIGHT/2;1IDEOGRAPHIC COMMA;
     1KATAKANA MIDDLE DOT;2LETTER WO;3SMALL A;4I;4U;4E;4O;4YA;4YU;4YO;4TU;
     1KATAKANA-HIRAGANA PROLONGED SOUND MARK;1KATAKANA LETTER A;3I;3U;3E;3O;3KA;3KI;3KU;3KE;3KO;3SA;
     3SI;3SU;3SE;3SO;3TA;3TI;3TU;3TE;3TO;3NA;3NI;3NU;3NE;3NO;3HA;3HI;3HU;3HE;3HO;3MA;3MI;3MU;3ME;
     3MO;3YA;3YU;3YO;3RA;3RI;3RU;3RE;3RO;3WA;3N;2VOICED SOUND MARK;2SEMI-VOICED/2;1HANGUL FILLER;
     2LETTER KIYEOK;3SSANGKIYEOK;3KIYEOK-SIOS;3NIEUN;3NIEUN-CIEUC;3NIEUN-HIEUH;3TIKEUT;3SSANGTIKEUT;
     3RIEUL;3RIEUL-KIYEOK;3RIEUL-MIEUM;3RIEUL-PIEUP;3RIEUL-SIOS;3RIEUL-THIEUTH;3RIEUL-PHIEUPH;
     3RIEUL-HIEUH;3MIEUM;3PIEUP;3SSANGPIEUP;3PIEUP-SIOS;3SIOS;3SSANGSIOS;3IEUNG;3CIEUC;3SSANGCIEUC;
     3CHIEUCH;3KHIEUKH;3THIEUTH;3PHIEUPH;3HIEUH"),
   (0xFFC2, "HALFWIDTH HANGUL LETTER A;3AE;3YA;3YAE;3EO;3E"),
   (0xFFCA, "HALFWIDTH HANGUL LETTER YEO;3YE;3O;3WA;3WAE;3OE"),
   (0xFFD2, "HALFWIDTH HANGUL LETTER YO;3U;3WEO;3WE;3WI;3YU"),
   (0xFFDA, "HALFWIDTH HANGUL LETTER EU;3YI;3I"),
   (0xFFE0, "FULLWIDTH CENT SIGN;1POUND/1;1NOT/1;1MACRON;1BROKEN BAR;1YEN SIGN;1WON/1"),
   (0xFFE8, "HALFWIDTH FORMS LIGHT VERTICAL;1LEFTWARDS ARROW;1UPWARDS/1;1RIGHTWARDS/1;1DOWNWARDS/1;
     1BLACK SQUARE;1WHITE CIRCLE"),
   (0xFFF9, "INTERLINEAR ANNOTATION ANCHOR;2SEPARATOR;2TERMINATOR;OBJECT REPLACEMENT CHARACTER;
     REPLACEMENT/1"),
   (0x10000, "LINEAR B SYLLABLE B008 A;3B038 E;3B028 I;3B061 O;3B010 U;3B001 DA;3B045 DE;3B007 DI;
     3B014 DO;3B051 DU;3B057 JA;3B046 JE"),
   (0x1000D, "LINEAR B SYLLABLE B036 JO;3B065 JU;3B077 KA;3B044 KE;3B067 KI;3B070 KO;3B081 KU;
     3B080 MA;3B013 ME;3B073 MI;3B015 MO;3B023 MU;3B006 NA;3B024 NE;3B030 NI;3B052 NO;3B055 NU;
     3B003 PA;3B072 PE;3B039 PI;3B011 PO;3B050 PU;3B016 QA;3B078 QE;3B021 QI;3B032 QO"),
   (0x10028, "LINEAR B SYLLABLE B060 RA;3B027 RE;3B053 RI;3B002 RO;3B026 RU;3B031 SA;3B009 SE;
     3B041 SI;3B012 SO;3B058 SU;3B059 TA;3B004 TE;3B037 TI;3B005 TO;3B069 TU;3B054 WA;3B075 WE;
     3B040 WI;3B042 WO"),
   (0x1003C, "LINEAR B SYLLABLE B017 ZA;3B074 ZE"),
   (0x1003F, "LINEAR B SYLLABLE B020 ZO;3B025 A2;3B043 A3;3B085 AU;3B071 DWE;3B090 DWO;3B048 NWA;
     3B029 PU2;3B062 PTE;3B076 RA2;3B033 RA3;3B068 RO2;3B066 TA2;3B087 TWE;3B091 TWO"),
   (0x10050, "LINEAR B SYMBOL B018;+1;3B022;3B034;3B047;3B049;3B056;3B063;+1;3B079;3B082;+1;3B086;
     3B089"),
   (0x10080, "LINEAR B IDEOGRAM B100 MAN;3B102 WOMAN;3B104 DEER;3B105 EQUID;3B105F MARE;
     3B105M STALLION;3B106F EWE;3B106M RAM;3B107F SHE-GOAT;3B107M HE-GOAT;3B108F SOW;3B108M BOAR;
     3B109F COW;3B109M BULL;3B120 WHEAT;3B121 BARLEY;3B122 OLIVE;3B123 SPICE;3B125 CYPERUS;
     2MONOGRAM B127 KAPO;3B128 KANAKO;2IDEOGRAM B130 OIL;3B131 WINE;3B132;2MONOGRAM B133 AREPA;
     3B135 MERI;2IDEOGRAM B140 BRONZE;3B141 GOLD;3B142;3B145 WOOL;3B146;3B150;3B151 HORN;3B152;+2;
     2MONOGRAM B156 TURO2;2IDEOGRAM B157;+1;3B159 CLOTH;3B160;+1;3B162 GARMENT;3B163 ARMOUR;3B164;
     +8;3B173 MONTH;3B174;3B176 TREE;3B177;+8;3B189;+1;3B191 HELMET;3B220 FOOTSTOOL;3B225 BATHTUB;
     3B230 SPEAR;3B231 ARROW;3B232;3B233 SWORD;3B234;3B236;3B240 WHEELED CHARIOT;3B241/1;
     3B242 CHARIOT FRAME;3B243 WHEEL;3B245;+1;2MONOGRAM B247 DIPTE;2IDEOGRAM B248;+1;3B251;+2;
     3B254 DART;3B255;+4;3VESSEL B155;4B200;+19;4B221;+1;4B226;+3;4B250;4B305"),
   (0x10100, "AEGEAN WORD SEPARATOR LINE;3DOT;1CHECK MARK"),
   (0x10107, "AEGEAN NUMBER ONE;2TWO;2THREE;2FOUR;2FIVE;2SIX;2SEVEN;2EIGHT;2NINE;2TEN;2TWENTY;
     2THIRTY;2FORTY;2FIFTY;2SIXTY;2SEVENTY;2EIGHTY;2NINETY;2ONE HUNDRED;2TWO/1;2THREE/1;2FOUR/1;
     2FIVE/1;2SIX/1;2SEVEN/1;2EIGHT/1;2NINE/1;2ONE THOUSAND;2TWO/1;2THREE/1;2FOUR/1;2FIVE/1;2SIX/1;
     2SEVEN/1;2EIGHT/1;2NINE/1;2TEN/1;2TWENTY/1;2THIRTY/1;2FORTY/1;2FIFTY/1;2SIXTY/1;2SEVENTY/1;
     2EIGHTY/1;2NINETY/1"),
   (0x10137, "AEGEAN WEIGHT BASE UNIT;2FIRST SUBUNIT;2SECOND/1;2THIRD/1;2FOURTH/1;
     1DRY MEASURE FIRST/1;1LIQUID/3;1MEASURE SECOND/1;2THIRD/1;GREEK ACROPHONIC ATTIC ONE QUARTER;
     4HALF;4DRACHMA;3FIVE;3FIFTY;3FIVE HUNDRED;4THOUSAND;3FIFTY/1;3FIVE TALENTS;3TEN/1;3FIFTY/1;
     3ONE HUNDRED/1;3FIVE/2;3ONE THOUSAND/1;3FIVE/2;4STATERS;3TEN/1;3FIFTY/1;3ONE HUNDRED/1;3FIVE/2;
     3ONE THOUSAND/1;3TEN/2;3FIFTY/2;3TEN MNAS;2HERAEUM ONE PLETHRON;2THESPIAN ONE;2HERMIONIAN/1;
     2EPIDAUREAN TWO;2THESPIAN/1;2CYRENAIC TWO DRACHMAS;2EPIDAUREAN/2;2TROEZENIAN FIVE;3TEN;
     4ALTERNATE FORM;2HERMIONIAN TEN;2MESSENIAN/1;2THESPIAN/1;3THIRTY;2TROEZENIAN FIFTY;
     4ALTERNATE FORM;2HERMIONIAN FIFTY;2THESPIAN/1;3ONE HUNDRED;3THREE/1;2EPIDAUREAN FIVE/1;
     2TROEZENIAN/2;2THESPIAN/2;2CARYSTIAN/2;2NAXIAN/2;2THESPIAN ONE THOUSAND;3FIVE/1;
     2DELPHIC FIVE MNAS;2STRATIAN FIFTY/1;1ONE HALF SIGN;4ALTERNATE FORM;1TWO THIRDS SIGN;
     1THREE QUARTERS/1;1YEAR/1;1TALENT/1;1DRACHMA/1;1OBOL/1;1TWO OBOLS/1;1THREE/2;1FOUR/2;1FIVE/2;
     1METRETES/1;1KYATHOS BASE/1;1LITRA/1;1OUNKIA/1;1XESTES/1;1ARTABE/1;1AROURA/1;1GRAMMA/1;
     1TRYBLION BASE/1;1ZERO/1;1ONE QUARTER/1;1SINUSOID/1;1INDICTION/1;NOMISMA/1"),
   (0x10190, "ROMAN SEXTANS SIGN;1UNCIA/1;1SEMUNCIA/1;1SEXTULA/1;1DIMIDIA/2;1SILIQUA/1;1DENARIUS/1;
     1QUINARIUS/1;1SESTERTIUS/1;1DUPONDIUS/1;1AS/1;1CENTURIAL/1;ASCIA SYMBOL"),
   (0x101A0, "GREEK SYMBOL TAU RHO"),
   (0x101D0, "PHAISTOS DISC SIGN PEDESTRIAN;3PLUMED HEAD;3TATTOOED/1;3CAPTIVE;3CHILD;3WOMAN;3HELMET;
     3GAUNTLET;3TIARA;3ARROW;3BOW;3SHIELD;3CLUB;3MANACLES;3MATTOCK;3SAW;3LID;3BOOMERANG;
     3CARPENTRY PLANE;3DOLIUM;3COMB;3SLING;3COLUMN;3BEEHIVE;3SHIP;3HORN;3HIDE;3BULLS LEG;3CAT;3RAM;
     3EAGLE;3DOVE;3TUNNY;3BEE;3PLANE TREE;3VINE;3PAPYRUS;3ROSETTE;3LILY;3OX BACK;3FLUTE;3GRATER;
     3STRAINER;3SMALL AXE;3WAVY BAND;3COMBINING OBLIQUE STROKE"),
   (0x10280, "LYCIAN LETTER A;2E;2B;2BH;2G;2D;2I;2W;2Z;2TH;2J;+1;2Q;2L;+2;2MM;2NN;2U;2P;2KK;2R;+2;
     2TT;2AN;2EN;2H;2X"),
   (0x102A0, "CARIAN LETTER A;2P2;2D;2L;2UUU;2R;2LD;2A2;2Q;2B;2M;2O;2D2;2T;2SH;2SH2;2S;2C-18;2U;2NN;
     2X;2N;2TT2;2P;2SS;2I;2E;2UUUU;2K;2K2;2ND;2UU;2G;2G2;2ST;2ST2;2NG;2II;2C-39;2TT;2UUU2;2RR;2MB;
     2MB2;+2;2LD2;2E2;2UUU3"),
   (0x102E0, "COPTIC EPACT THOUSANDS MARK;2DIGIT ONE;3TWO;3THREE;3FOUR;3FIVE;3SIX;3SEVEN;3EIGHT;
     3NINE;2NUMBER TEN;3TWENTY;3THIRTY;3FORTY;3FIFTY;3SIXTY;3SEVENTY;3EIGHTY;3NINETY;3ONE HUNDRED;
     3TWO/1;3THREE/1;3FOUR/1;3FIVE/1;3SIX/1;3SEVEN/1;3EIGHT/1;3NINE/1"),
   (0x10300, "OLD ITALIC LETTER A;3BE;3KE;3DE;3E;3VE;3ZE;3HE;3THE;3I;3KA;3EL;+2;3ESH;3O;3PE;3SHE;
     3KU;3ER;+1;3TE;3U;3EKS;3PHE;3KHE;3EF;3ERS;3CHE;3II;3UU;3ESS;2NUMERAL ONE;3FIVE;3TEN;3FIFTY"),
   (0x1032D, "OLD ITALIC LETTER YE;3NORTHERN TSE;3SOUTHERN/1;GOTHIC LETTER AHSA;2BAIRKAN;2GIBA;
     2DAGS;2AIHVUS;2QAIRTHRA;2IUJA;2HAGL;2THIUTH;2EIS;2KUSMA;2LAGUS;2MANNA;2NAUTHS;2JER;2URUS;
     2PAIRTHRA;2NINETY;2RAIDA;2SAUIL;2TEIWS;2WINJA;2FAIHU;2IGGWS;2HWAIR;2OTHAL;2NINE HUNDRED"),
   (0x10350, "OLD PERMIC LETTER AN;3BUR;3GAI;3DOI;3E;3ZHOI;3DZHOI;3ZATA;3DZITA;3I;3KOKE;3LEI;3MENOE;
     3NENOE;3VOOI;3PEEI;3REI;3SII;3TAI;3U;3CHERY;3SHOOI;3SHCHOOI;3YRY;3YERU;3O;3OO;3EF;3HA;3TSIU;
     3VER;3YER;3YERI;3YAT;3IE;3YU;3YA;3IA;COMBINING OLD PERMIC LETTER AN;4DOI;4ZATA;4NENOE;4SII"),
   (0x10380, "UGARITIC LETTER ALPA;2BETA;2GAMLA;2KHA;2DELTA;2HO;2WO;2ZETA;2HOTA;2TET;2YOD;2KAF;
     2SHIN;2LAMDA;2MEM;2DHAL;2NUN;2ZU;2SAMKA;2AIN;2PU;2SADE;2QOPA;2RASHA;2THANNA;2GHAIN;2TO;2I;2U;
     2SSU"),
   (0x1039F, "UGARITIC WORD DIVIDER;OLD PERSIAN SIGN A;3I;3U;3KA;3KU;3GA;3GU;3XA;3CA;3JA;3JI;3TA;
     3TU;3DA;3DI;3DU;3THA;3PA;3BA;3FA;3NA;3NU;3MA;3MI;3MU;3YA;3VA;3VI;3RA;3RU;3LA;3SA;3ZA;3SHA;3SSA;
     3HA"),
   (0x103C8, "OLD PERSIAN SIGN AURAMAZDAA;3AURAMAZDAA-2;3AURAMAZDAAHA;3XSHAAYATHIYA;3DAHYAAUSH;
     3DAHYAAUSH-2;3BAGA;3BUUMISH;2WORD DIVIDER;2NUMBER ONE;3TWO;3TEN;3TWENTY;3HUNDRED"),
   (0x10400, "DESERET CAPITAL LETTER LONG I;4E;4A;4AH;4O;4OO;3SHORT I;4E;4A;4AH;4O;4OO;3AY;3OW;3WU;
     3YEE;3H;3PEE;3BEE;3TEE;3DEE;3CHEE;3JEE;3KAY;3GAY;3EF;3VEE;3ETH;3THEE;3ES;3ZEE;3ESH;3ZHEE;3ER;
     3EL;+2;3ENG;3OI;3EW;1SMALL LETTER LONG I;4E;4A;4AH;4O;4OO;3SHORT I;4E;4A;4AH;4O;4OO;3AY;3OW;
     3WU;3YEE;3H;3PEE;3BEE;3TEE;3DEE;3CHEE;3JEE;3KAY;3GAY;3EF;3VEE;3ETH;3THEE;3ES;3ZEE;3ESH;3ZHEE;
     3ER;3EL;+2;3ENG;3OI;3EW;SHAVIAN LETTER PEEP;2TOT;2KICK;2FEE;2THIGH;2SO;2SURE;2CHURCH;2YEA;
     2HUNG;2BIB;2DEAD;2GAG;2VOW;2THEY;2ZOO;2MEASURE;2JUDGE;2WOE;2HA-HA;2LOLL;2MIME;2IF;2EGG;2ASH;
     2ADO;2ON;2WOOL;2OUT;2AH;2ROAR;2NUN;2EAT;2AGE;2ICE;2UP;2OAK;2OOZE;2OIL;2AWE;2ARE;2OR;2AIR;2ERR;
     2ARRAY;2EAR;2IAN;2YEW;OSMANYA LETTER ALEF;2BA;2TA;2JA;2XA;2KHA;2DEEL;2RA;2SA;2SHIIN;2DHA;2CAYN;
     2GA;2FA;2QAAF;2KAAF;2LAAN;2MIIN;2NUUN;2WAW;2HA;2YA;2A;2E;2I;2O;2U;2AA;2EE;2OO"),
   (0x104A0, "OSMANYA DIGIT ZERO;2ONE;2TWO;2THREE;2FOUR;2FIVE;2SIX;2SEVEN;2EIGHT;2NINE"),
   (0x104B0, "OSAGE CAPITAL LETTER A;3AI;3AIN;3AH;3BRA;3CHA;3EHCHA;3E;3EIN;3HA;3HYA;3I;3KA;3EHKA;
     3KYA;3LA;3MA;3NA;3O;3OIN;3PA;3EHPA;3SA;3SHA;3TA;3EHTA;3TSA;3EHTSA;3TSHA;3DHA;3U;3WA;3KHA;3GHA;
     3ZA;3ZHA"),
   (0x104D8, "OSAGE SMALL LETTER A;3AI;3AIN;3AH;3BRA;3CHA;3EHCHA;3E;3EIN;3HA;3HYA;3I;3KA;3EHKA;3KYA;
     3LA;3MA;3NA;3O;3OIN;3PA;3EHPA;3SA;3SHA;3TA;3EHTA;3TSA;3EHTSA;3TSHA;3DHA;3U;3WA;3KHA;3GHA;3ZA;
     3ZHA"),
   (0x10500, "ELBASAN LETTER A;2BE;2CE;2CHE;2DE;2NDE;2DHE;2EI;2E;2FE;2GE;2GJE;2HE;2I;2JE;2KE;2LE;
     2LLE;2ME;2NE;2NA;2NJE;2O;2PE;2QE;2RE;2RRE;2SE;2SHE;2TE;2THE;2U;2VE;2XE;2Y;2ZE;2ZHE;2GHE;
     2GHAMMA;2KHE"),
   (0x10530, "CAUCASIAN ALBANIAN LETTER ALT;3BET;3GIM;3DAT;3EB;3ZARL;3EYN;3ZHIL;3TAS;3CHA;3YOWD;
     3ZHA;3IRB;3SHA;3LAN;3INYA;3XEYN;3DYAN;3CAR;3JHOX;3KAR;3LYIT;3HEYT;3QAY;3AOR;3CHOY;3CHI;3CYAY;
     3MAQ;3QAR;3NOWC;3DZYAY;3SHAK;3JAYN;3ON;3TYAY;3FAM;3DZAY;3CHAT;3PEN;3GHEYS;3RAT;3SEYK;3VEYZ;
     3TIWR;3SHOY;3IWN;3CYAW;3CAYN;3YAYD;3PIWR;3KIW"),
   (0x1056F, "CAUCASIAN ALBANIAN CITATION MARK;VITHKUQI CAPITAL LETTER A;3BBE;3BE;3CE;3CHE;3DE;3DHE;
     3EI;3E;3FE;3GA"),
   (0x1057C, "VITHKUQI CAPITAL LETTER HA;3HHA;3I;3IJE;3JE;3KA;3LA;3LLA;3ME;3NE;3NJE;3O;3PE;3QA;
     3RE"),
   (0x1058C, "VITHKUQI CAPITAL LETTER SE;3SHE;3TE;3THE;3U;3VE;3XE"),
   (0x10594, "VITHKUQI CAPITAL LETTER Y;3ZE"),
   (0x10597, "VITHKUQI SMALL LETTER A;3BBE;3BE;3CE;3CHE;3DE;3DHE;3EI;3E;3FE;3GA"),
   (0x105A3, "VITHKUQI SMALL LETTER HA;3HHA;3I;3IJE;3JE;3KA;3LA;3LLA;3ME;3NE;3NJE;3O;3PE;3QA;3RE"),
   (0x105B3, "VITHKUQI SMALL LETTER SE;3SHE;3TE;3THE;3U;3VE;3XE"),
   (0x105BB, "VITHKUQI SMALL LETTER Y;3ZE"),
   (0x10600, "LINEAR A SIGN AB001;+10;3AB013;3AB016;+1;3AB020;+1;3AB021F;3AB021M;3AB022;3AB022F;
     3AB022M;3AB023;3AB023M;3AB024;3AB026;+2;3A028B;3AB029;+2;3AB034;3AB037;+4;3AB044;+7;3AB053;+8;
     3AB065;+2;3AB069;+1;3AB073;+1;3AB076;+6;3AB085;+2;3A100-102;3AB118;3AB120;3A120B;3AB122;+1;
     3AB131A;+1;3A131C;3AB164;3AB171;3AB180;3AB188;3AB191;3A301;+7;3A309A;+2;3A310;+2;3A313A;+2;
     3A314;+57;3A400-VAS;3A401-VAS;3A402-VAS;3A403-VAS;3A404-VAS;3A405-VAS;3A406-VAS;3A407-VAS;
     3A408-VAS;3A409-VAS;3A410-VAS;3A411-VAS;3A412-VAS;3A413-VAS;3A414-VAS;3A415-VAS;3A416-VAS;
     3A417-VAS;3A418-VAS;3A501;+5;3A508;+5;3A515;+1;3A520;+1;3A523;+9;3A534;+8;3A545;3A547;+10;
     3A559;3A563;+3;3A568;+21;3A591;+1;3A594"),
   (0x10700, "LINEAR A SIGN A595;+1;3A598;3A600;+4;3A606;3A608;+16;3A626;+3;3A634;3A637;+1;3A640;
     3A642;+4;3A648;+1;3A651;+13"),
   (0x10740, "LINEAR A SIGN A701 A;3A702 B;3A703 D;3A704 E;3A705 F;3A706 H;3A707 J;3A708 K;3A709 L;
     3A709-2 L2;3A709-3 L3;3A709-4 L4;3A709-6 L6;3A710 W;3A711 X;3A712 Y;3A713 OMEGA;3A714 ABB;
     3A715 BB;3A717 DD;3A726 EYYY;3A732 JE"),
   (0x10760, "LINEAR A SIGN A800;+7"),
   (0x10780, "MODIFIER LETTER SMALL CAPITAL AA;2SUPERSCRIPT TRIANGULAR COLON;3HALF/2;2SMALL AE;
     3CAPITAL B;3B WITH HOOK"),
   (0x10787, "MODIFIER LETTER SMALL DZ DIGRAPH;5WITH RETROFLEX HOOK;6CURL;3DEZH DIGRAPH;
     3D WITH TAIL;5HOOK;6AND TAIL;3REVERSED E;3CLOSED REVERSED OPEN E;3FENG DIGRAPH;3RAMS HORN;
     3CAPITAL G;3G WITH HOOK;3CAPITAL/3;3H WITH STROKE;3CAPITAL H;3HENG WITH HOOK;
     3DOTLESS J WITH STROKE AND/1;3LS DIGRAPH;3LZ/1;3L WITH BELT;3CAPITAL/3;
     3L WITH RETROFLEX HOOK AND/1;3LEZH;4WITH RETROFLEX HOOK;3TURNED Y;5WITH BELT;3O WITH STROKE;
     3CAPITAL OE;3CLOSED OMEGA;3Q;3TURNED R WITH LONG LEG;8AND RETROFLEX HOOK;3R WITH TAIL;
     5FISHHOOK;3CAPITAL R;3TC DIGRAPH WITH CURL;3TS DIGRAPH;5WITH RETROFLEX HOOK;3TESH DIGRAPH;
     3T WITH RETROFLEX HOOK;3V WITH RIGHT/1"),
   (0x107B2, "MODIFIER LETTER SMALL CAPITAL Y;2GLOTTAL STOP WITH STROKE;2REVERSED/4;2BILABIAL CLICK;
     2DENTAL/1;2LATERAL/1;2ALVEOLAR/1;2RETROFLEX CLICK WITH RETROFLEX HOOK;2SMALL S WITH CURL"),
   (0x10800, "CYPRIOT SYLLABLE A;2E;2I;2O;2U;2JA"),
   (0x10808, "CYPRIOT SYLLABLE JO"),
   (0x1080A, "CYPRIOT SYLLABLE KA;2KE;2KI;2KO;2KU;2LA;2LE;2LI;2LO;2LU;2MA;2ME;2MI;2MO;2MU;2NA;2NE;
     2NI;2NO;2NU;2PA;2PE;2PI;2PO;2PU;2RA;2RE;2RI;2RO;2RU;2SA;2SE;2SI;2SO;2SU;2TA;2TE;2TI;2TO;2TU;
     2WA;2WE;2WI;2WO"),
   (0x10837, "CYPRIOT SYLLABLE XA;2XE"),
   (0x1083C, "CYPRIOT SYLLABLE ZA"),
   (0x1083F, "CYPRIOT SYLLABLE ZO;IMPERIAL ARAMAIC LETTER ALEPH;3BETH;3GIMEL;3DALETH;3HE;3WAW;
     3ZAYIN;3HETH;3TETH;3YODH;3KAPH;3LAMEDH;3MEM;3NUN;3SAMEKH;3AYIN;3PE;3SADHE;3QOPH;3RESH;3SHIN;
     3TAW"),
   (0x10857, "IMPERIAL ARAMAIC SECTION SIGN;2NUMBER ONE;3TWO;3THREE;3TEN;3TWENTY;3ONE HUNDRED;
     4THOUSAND;3TEN/1;PALMYRENE LETTER ALEPH;2BETH;2GIMEL;2DALETH;2HE;2WAW;2ZAYIN;2HETH;2TETH;2YODH;
     2KAPH;2LAMEDH;2MEM;2FINAL NUN;2NUN;2SAMEKH;2AYIN;2PE;2SADHE;2QOPH;2RESH;2SHIN;2TAW;
     1LEFT-POINTING FLEURON;1RIGHT-POINTING/1;1NUMBER ONE;2TWO;2THREE;2FOUR;2FIVE;2TEN;2TWENTY;
     NABATAEAN LETTER FINAL ALEPH;2ALEPH;2FINAL BETH;2BETH;2GIMEL;2DALETH;2FINAL HE;2HE;2WAW;2ZAYIN;
     2HETH;2TETH;2FINAL YODH;2YODH;2FINAL KAPH;2KAPH;2FINAL LAMEDH;2LAMEDH;2FINAL MEM;2MEM;
     2FINAL NUN;2NUN;2SAMEKH;2AYIN;2PE;2SADHE;2QOPH;2RESH;2FINAL SHIN;2SHIN;2TAW"),
   (0x108A7, "NABATAEAN NUMBER ONE;2TWO;2THREE;2FOUR;1CRUCIFORM/2;1NUMBER FIVE;2TEN;2TWENTY;
     2ONE HUNDRED"),
   (0x108E0, "HATRAN LETTER ALEPH;2BETH;2GIMEL;2DALETH-RESH;2HE;2WAW;2ZAYN;2HETH;2TETH;2YODH;2KAPH;
     2LAMEDH;2MEM;2NUN;2SAMEKH;2AYN;2PE;2SADHE;2QOPH"),
   (0x108F4, "HATRAN LETTER SHIN;2TAW"),
   (0x108FB, "HATRAN NUMBER ONE;2FIVE;2TEN;2TWENTY;2ONE HUNDRED"),
   (0x10900, "PHOENICIAN LETTER ALF;2BET;2GAML;2DELT;2HE;2WAU;2ZAI;2HET;2TET;2YOD;2KAF;2LAMD;2MEM;
     2NUN;2SEMK;2AIN;2PE;2SADE;2QOF;2ROSH;2SHIN;2TAU;1NUMBER ONE;2TEN;2TWENTY;2ONE HUNDRED;2TWO;
     2THREE"),
   (0x1091F, "PHOENICIAN WORD SEPARATOR;LYDIAN LETTER A;+1;2G;2D;+1;2V;2I;2Y;2K;+4;2R;2SS;2T;+1;2F;
     2Q;2S;2TT;2AN;2EN;2LY;2NN;2C"),
   (0x1093F, "LYDIAN TRIANGULAR MARK"),
   (0x10980, "MEROITIC HIEROGLYPHIC LETTER A;3E;3I;3O;3YA;3WA;3BA;3BA-2;3PA;3MA;3NA;3NA-2;3NE;3NE-2;
     3RA;3RA-2;3LA;3KHA;3HHA;3SA;3SA-2;3SE;3KA;3QA;3TA;3TA-2;3TE;3TE-2;3TO;3DA;2SYMBOL VIDJ;3VIDJ-2;
     1CURSIVE LETTER A;3E;3I;3O;3YA;3WA;3BA;3PA;3MA;3NA;3NE;3RA;3LA;3KHA;3HHA;3SA;3ARCHAIC/1;3SE;
     3KA;3QA;3TA;3TE;3TO;3DA"),
   (0x109BC, "MEROITIC CURSIVE FRACTION ELEVEN TWELFTHS;3ONE HALF;2LOGOGRAM RMT;3IMN;2NUMBER ONE;
     3TWO;3THREE;3FOUR;3FIVE;3SIX;3SEVEN;3EIGHT;3NINE;3TEN;3TWENTY;3THIRTY;3FORTY;3FIFTY;3SIXTY;
     3SEVENTY"),
   (0x109D2, "MEROITIC CURSIVE NUMBER ONE HUNDRED;3TWO/1;3THREE/1;3FOUR/1;3FIVE/1;3SIX/1;3SEVEN/1;
     3EIGHT/1;3NINE/1;3ONE THOUSAND;3TWO/1;3THREE/1;3FOUR/1;3FIVE/1;3SIX/1;3SEVEN/1;3EIGHT/1;
     3NINE/1;3TEN/1;3TWENTY/1;3THIRTY/1;3FORTY/1;3FIFTY/1;3SIXTY/1;3SEVENTY/1;3EIGHTY/1;3NINETY/1;
     3ONE HUNDRED/1;3TWO/2;3THREE/2;3FOUR/2;3FIVE/2;3SIX/2;3SEVEN/2;3EIGHT/2;3NINE/2;
     2FRACTION ONE TWELFTH;3TWO TWELFTHS;3THREE/1;3FOUR/1;3FIVE/1;3SIX/1;3SEVEN/1;3EIGHT/1;3NINE/1;
     3TEN/1"),
   (0x10A00, "KHAROSHTHI LETTER A;1VOWEL SIGN I;3U;3VOCALIC R"),
   (0x10A05, "KHAROSHTHI VOWEL SIGN E;3O"),
   (0x10A0C, "KHAROSHTHI VOWEL LENGTH MARK;1SIGN DOUBLE RING BELOW;2ANUSVARA;2VISARGA;1LETTER KA;
     2KHA;2GA;2GHA"),
   (0x10A15, "KHAROSHTHI LETTER CA;2CHA;2JA"),
   (0x10A19, "KHAROSHTHI LETTER NYA;2TTA;2TTHA;2DDA;2DDHA;2NNA;2TA;2THA;2DA;2DHA;2NA;2PA;2PHA;2BA;
     2BHA;2MA;2YA;2RA;2LA;2VA;2SHA;2SSA;2SA;2ZA;2HA;2KKA;2TTTHA;2TTTA;2VHA"),
   (0x10A38, "KHAROSHTHI SIGN BAR ABOVE;2CAUDA;2DOT BELOW"),
   (0x10A3F, "KHAROSHTHI VIRAMA;1DIGIT ONE;2TWO;2THREE;2FOUR;1NUMBER TEN;2TWENTY;2ONE HUNDRED;
     3THOUSAND;1FRACTION ONE HALF"),
   (0x10A50, "KHAROSHTHI PUNCTUATION DOT;2SMALL CIRCLE;2CIRCLE;2CRESCENT BAR;2MANGALAM;2LOTUS;
     2DANDA;2DOUBLE/1;2LINES"),
   (0x10A60, "OLD SOUTH ARABIAN LETTER HE;4LAMEDH;4HETH;4MEM;4QOPH;4WAW;4SHIN;4RESH;4BETH;4TAW;4SAT;
     4KAPH;4NUN;4KHETH;4SADHE;4SAMEKH;4FE;4ALEF;4AYN;4DHADHE;4GIMEL;4DALETH;4GHAYN;4TETH;4ZAYN;
     4DHALETH;4YODH;4THAW;4THETH;3NUMBER ONE;4FIFTY;3NUMERIC INDICATOR;1NORTH ARABIAN LETTER HEH;
     4LAM;4HAH;4MEEM;4QAF;4WAW;4ES-2;4REH;4BEH;4TEH;4ES-1;4KAF;4NOON;4KHAH;4SAD;4ES-3;4FEH;4ALEF;
     4AIN;4DAD;4GEEM;4DAL;4GHAIN;4TAH;4ZAIN;4THAL;4YEH;4THEH;4ZAH;3NUMBER ONE;4TEN;4TWENTY"),
   (0x10AC0, "MANICHAEAN LETTER ALEPH;2BETH;2BHETH;2GIMEL;2GHIMEL;2DALETH;2HE;2WAW;1SIGN UD;
     1LETTER ZAYIN;2ZHAYIN;2JAYIN;2JHAYIN;2HETH;2TETH;2YODH;2KAPH;2XAPH;2KHAPH;2LAMEDH;2DHAMEDH;
     2THAMEDH;2MEM;2NUN;2SAMEKH;2AYIN;2AAYIN;2PE;2FE;2SADHE;2QOPH;2XOPH;2QHOPH;2RESH;2SHIN;2SSHIN;
     2TAW;1ABBREVIATION MARK ABOVE;3BELOW"),
   (0x10AEB, "MANICHAEAN NUMBER ONE;2FIVE;2TEN;2TWENTY;2ONE HUNDRED;1PUNCTUATION STAR;2FLEURON;
     2DOUBLE DOT WITHIN DOT;2DOT/2;2DOT;2TWO DOTS;2LINE FILLER"),
   (0x10B00, "AVESTAN LETTER A;2AA;2AO;2AAO;2AN;2AAN;2AE;2AEE;2E;2EE;2O;2OO;2I;2II;2U;2UU;2KE;2XE;
     2XYE;2XVE;2GE;2GGE;2GHE;2CE;2JE;2TE;2THE;2DE;2DHE;2TTE;2PE;2FE;2BE;2BHE;2NGE;2NGYE;2NGVE;2NE;
     2NYE;2NNE;2ME;2HME;2YYE;2YE;2VE;2RE;2LE;2SE;2ZE;2SHE;2ZHE;2SHYE;2SSHE;2HE"),
   (0x10B39, "AVESTAN ABBREVIATION MARK;TINY TWO DOTS OVER ONE DOT PUNCTUATION;SMALL/6;LARGE/6;
     1ONE DOT OVER TWO DOTS/1;1TWO RINGS OVER ONE RING/1;1ONE RING OVER TWO RINGS/1;
     INSCRIPTIONAL PARTHIAN LETTER ALEPH;3BETH;3GIMEL;3DALETH;3HE;3WAW;3ZAYIN;3HETH;3TETH;3YODH;
     3KAPH;3LAMEDH;3MEM;3NUN;3SAMEKH;3AYIN;3PE;3SADHE;3QOPH;3RESH;3SHIN;3TAW"),
   (0x10B58, "INSCRIPTIONAL PARTHIAN NUMBER ONE;3TWO;3THREE;3FOUR;3TEN;3TWENTY;3ONE HUNDRED;
     4THOUSAND;1PAHLAVI LETTER ALEPH;3BETH;3GIMEL;3DALETH;3HE;3WAW-AYIN-RESH;3ZAYIN;3HETH;3TETH;
     3YODH;3KAPH;3LAMEDH;3MEM-QOPH;3NUN;3SAMEKH;3PE;3SADHE;3SHIN;3TAW"),
   (0x10B78, "INSCRIPTIONAL PAHLAVI NUMBER ONE;3TWO;3THREE;3FOUR;3TEN;3TWENTY;3ONE HUNDRED;
     4THOUSAND;PSALTER PAHLAVI LETTER ALEPH;3BETH;3GIMEL;3DALETH;3HE;3WAW-AYIN-RESH;3ZAYIN;3HETH;
     3YODH;3KAPH;3LAMEDH;3MEM-QOPH;3NUN;3SAMEKH;3PE;3SADHE;3SHIN;3TAW"),
   (0x10B99, "PSALTER PAHLAVI SECTION MARK;2TURNED/2;2FOUR DOTS WITH CROSS;5DOT"),
   (0x10BA9, "PSALTER PAHLAVI NUMBER ONE;3TWO;3THREE;3FOUR;3TEN;3TWENTY;3ONE HUNDRED"),
   (0x10C00, "OLD TURKIC LETTER ORKHON A;3YENISEI A;4AE;3ORKHON I;3YENISEI I;4E;3ORKHON O;4OE;
     3YENISEI/1;3ORKHON AB;3YENISEI/1;3ORKHON AEB;3YENISEI/1;3ORKHON AG;3YENISEI/1;3ORKHON AEG;
     3YENISEI/1;3ORKHON AD;3YENISEI/1;3ORKHON AED;4EZ;3YENISEI/1;3ORKHON AY;3YENISEI/1;3ORKHON AEY;
     3YENISEI/1;3ORKHON AEK;3YENISEI/1;3ORKHON OEK;3YENISEI/1;3ORKHON AL;3YENISEI/1;3ORKHON AEL;
     4ELT;4EM;4AN;4AEN;3YENISEI/1;3ORKHON ENT;3YENISEI/1;3ORKHON ENC;3YENISEI/1;3ORKHON ENY;
     3YENISEI/1;4ANG;3ORKHON ENG;3YENISEI AENG;3ORKHON EP;4OP;4IC;4EC;3YENISEI/1;3ORKHON AQ;
     3YENISEI/1;3ORKHON IQ;3YENISEI/1;3ORKHON OQ;3YENISEI/1;3ORKHON AR;3YENISEI/1;3ORKHON AER;4AS;
     4AES;4ASH;3YENISEI/1;3ORKHON ESH;3YENISEI/1;3ORKHON AT;3YENISEI/1;3ORKHON AET;3YENISEI/1;
     3ORKHON OT;4BASH"),
   (0x10C80, "OLD HUNGARIAN CAPITAL LETTER A;4AA;4EB;4AMB;4EC;4ENC;4ECS;4ED;4AND;4E;4CLOSE E;4EE;+2;
     4EGY;4EH;4I;4II;4EJ;+1;4AK;4UNK;4EL;4ELY;4EM;+1;4ENY;4O;4OO;4NIKOLSBURG OE;4RUDIMENTA/1;4OEE;
     4EP;4EMP;4ER;4SHORT/1;4ES;4ESZ;4ET;4ENT;4ETY;4ECH;4U;4UU;4NIKOLSBURG UE;4RUDIMENTA/1;4EV;4EZ;
     4EZS;4ENT-SHAPED SIGN;4US"),
   (0x10CC0, "OLD HUNGARIAN SMALL LETTER A;4AA;4EB;4AMB;4EC;4ENC;4ECS;4ED;4AND;4E;4CLOSE E;4EE;+2;
     4EGY;4EH;4I;4II;4EJ;+1;4AK;4UNK;4EL;4ELY;4EM;+1;4ENY;4O;4OO;4NIKOLSBURG OE;4RUDIMENTA/1;4OEE;
     4EP;4EMP;4ER;4SHORT/1;4ES;4ESZ;4ET;4ENT;4ETY;4ECH;4U;4UU;4NIKOLSBURG UE;4RUDIMENTA/1;4EV;4EZ;
     4EZS;4ENT-SHAPED SIGN;4US"),
   (0x10CFA, "OLD HUNGARIAN NUMBER ONE;3FIVE;3TEN;3FIFTY;3ONE HUNDRED;4THOUSAND"),
   (0x10D00, "HANIFI ROHINGYA LETTER A;3BA;3PA;3TA;3TTA;3JA;3CA;3HA;3KHA;3FA;3DA;3DDA;3RA;3RRA;3ZA;
     3SA;3SHA;3KA;3GA;3LA;3MA;3NA;3WA;3KINNA/1;3YA;3KINNA/1;3NGA;3NYA;3VA;2VOWEL A;3I;3U;3E;3O;
     2MARK SAKIN;3NA KHONNA;2SIGN HARBAHAY;3TAHALA;3TANA;3TASSI"),
   (0x10D30, "HANIFI ROHINGYA DIGIT ZERO;3ONE;3TWO;3THREE;3FOUR;3FIVE;3SIX;3SEVEN;3EIGHT;3NINE"),
   (0x10E60, "RUMI DIGIT ONE;2TWO;2THREE;2FOUR;2FIVE;2SIX;2SEVEN;2EIGHT;2NINE;1NUMBER TEN;2TWENTY;
     2THIRTY;2FORTY;2FIFTY;2SIXTY;2SEVENTY;2EIGHTY;2NINETY;2ONE HUNDRED;2TWO/1;2THREE/1;2FOUR/1;
     2FIVE/1;2SIX/1;2SEVEN/1;2EIGHT/1;2NINE/1;1FRACTION ONE HALF;3QUARTER;3THIRD;2TWO THIRDS"),
   (0x10E80, "YEZIDI LETTER ELIF;2BE;2PE;2PHE;2THE;2SE;2CIM;2CHIM;2CHHIM;2HHA;2XA;2DAL;2ZAL;2RA;
     2RHA;2ZA;2JA;2SIN;2SHIN;2SAD;2DAD;2TA;2ZE;2EYN;2XHEYN;2FA;2VA;3ALTERNATE FORM;2QAF;2KAF;2KHAF;
     2GAF;2LAM;2MIM;2NUN;2UM;2WAW;2OW;2EW;2HAY;2YOT;2ET"),
   (0x10EAB, "YEZIDI COMBINING HAMZA MARK;2MADDA/1;1HYPHENATION/1"),
   (0x10EB0, "YEZIDI LETTER LAM WITH DOT ABOVE;2YOT WITH CIRCUMFLEX/1"),
   (0x10F00, "OLD SOGDIAN LETTER ALEPH;3FINAL/1;3BETH;3FINAL/1;3GIMEL;3HE;3FINAL/1;3WAW;3ZAYIN;
     3HETH;3YODH;3KAPH;3LAMEDH;3MEM;3NUN;3FINAL/1;5WITH VERTICAL TAIL;3SAMEKH;3AYIN;3ALTERNATE/1;
     3PE;3SADHE;3FINAL/1;5WITH VERTICAL TAIL;3RESH-AYIN-DALETH;3SHIN;3TAW;3FINAL/1;
     5WITH VERTICAL TAIL;2NUMBER ONE;3TWO;3THREE;3FOUR;3FIVE;3TEN;3TWENTY;3THIRTY;3ONE HUNDRED;
     2FRACTION ONE HALF;2LIGATURE AYIN-DALETH"),
   (0x10F30, "SOGDIAN LETTER ALEPH;2BETH;2GIMEL;2HE;2WAW;2ZAYIN;2HETH;2YODH;2KAPH;2LAMEDH;2MEM;2NUN;
     2SAMEKH;2AYIN;2PE;2SADHE;2RESH-AYIN;2SHIN;2TAW;2FETH;2LESH;1INDEPENDENT SHIN;
     1COMBINING DOT BELOW;2TWO DOTS/1;2DOT ABOVE;2TWO DOTS/1;2CURVE/1;3BELOW;2HOOK ABOVE;3BELOW;
     2LONG/2;2RESH/1;2STROKE/1;1NUMBER ONE;2TEN;2TWENTY;2ONE HUNDRED;1PUNCTUATION TWO VERTICAL BARS;
     5WITH DOTS;2CIRCLE WITH DOT;2TWO CIRCLES WITH DOTS;2HALF CIRCLE WITH DOT"),
   (0x10F70, "OLD UYGHUR LETTER ALEPH;3BETH;3GIMEL-HETH;3WAW;3ZAYIN;3FINAL HETH;3YODH;3KAPH;3LAMEDH;
     3MEM;3NUN;3SAMEKH;3PE;3SADHE;3RESH;3SHIN;3TAW;3LESH;2COMBINING DOT ABOVE;4BELOW;
     3TWO DOTS ABOVE;5BELOW;2PUNCTUATION BAR;3TWO BARS;4DOTS;3FOUR/1"),
   (0x10FB0, "CHORASMIAN LETTER ALEPH;2SMALL/1;2BETH;2GIMEL;2DALETH;2HE;2WAW;2CURLED/1;2ZAYIN;2HETH;
     2YODH;2KAPH;2LAMEDH;2MEM;2NUN;2SAMEKH;2AYIN;2PE;2RESH;2SHIN;2TAW;1NUMBER ONE;2TWO;2THREE;2FOUR;
     2TEN;2TWENTY;2ONE HUNDRED"),
   (0x10FE0, "ELYMAIC LETTER ALEPH;2BETH;2GIMEL;2DALETH;2HE;2WAW;2ZAYIN;2HETH;2TETH;2YODH;2KAPH;
     2LAMEDH;2MEM;2NUN;2SAMEKH;2AYIN;2PE;2SADHE;2QOPH;2RESH;2SHIN;2TAW;1LIGATURE ZAYIN-YODH"),
   (0x11000, "BRAHMI SIGN CANDRABINDU;2ANUSVARA;2VISARGA;2JIHVAMULIYA;2UPADHMANIYA;1LETTER A;2AA;2I;
     2II;2U;2UU;2VOCALIC R;3RR;3L;3LL;2E;2AI;2O;2AU;2KA;2KHA;2GA;2GHA;2NGA;2CA;2CHA;2JA;2JHA;2NYA;
     2TTA;2TTHA;2DDA;2DDHA;2NNA;2TA;2THA;2DA;2DHA;2NA;2PA;2PHA;2BA;2BHA;2MA;2YA;2RA;2LA;2VA;2SHA;
     2SSA;2SA;2HA;2LLA;2OLD TAMIL LLLA;4RRA;4NNNA;1VOWEL SIGN AA;3BHATTIPROLU/1;3I;3II;3U;3UU;
     3VOCALIC R;4RR;4L;4LL;3E;3AI;3O;3AU;1VIRAMA;1DANDA;1DOUBLE/1;1PUNCTUATION DOT;2DOUBLE/1;2LINE;
     2CRESCENT BAR;2LOTUS"),
   (0x11052, "BRAHMI NUMBER ONE;2TWO;2THREE;2FOUR;2FIVE;2SIX;2SEVEN;2EIGHT;2NINE;2TEN;2TWENTY;
     2THIRTY;2FORTY;2FIFTY;2SIXTY;2SEVENTY;2EIGHTY;2NINETY;2ONE HUNDRED;3THOUSAND;1DIGIT ZERO;2ONE;
     2TWO;2THREE;2FOUR;2FIVE;2SIX;2SEVEN;2EIGHT;2NINE;1SIGN OLD TAMIL VIRAMA;
     1LETTER OLD TAMIL SHORT E;5O;1VOWEL SIGN OLD TAMIL SHORT E;6O;1LETTER OLD TAMIL LLA"),
   (0x1107F, "BRAHMI NUMBER JOINER;KAITHI SIGN CANDRABINDU;2ANUSVARA;2VISARGA;1LETTER A;2AA;2I;2II;
     2U;2UU;2E;2AI;2O;2AU;2KA;2KHA;2GA;2GHA;2NGA;2CA;2CHA;2JA;2JHA;2NYA;2TTA;2TTHA;2DDA;2DDDHA;
     2DDHA;2RHA;2NNA;2TA;2THA;2DA;2DHA;2NA;2PA;2PHA;2BA;2BHA;2MA;2YA;2RA;2LA;2VA;2SHA;2SSA;2SA;2HA;
     1VOWEL SIGN AA;3I;3II;3U;3UU;3E;3AI;3O;3AU;1SIGN VIRAMA;2NUKTA;1ABBREVIATION SIGN;
     1ENUMERATION/1;1NUMBER/1;1SECTION MARK;1DOUBLE/2;1DANDA;1DOUBLE/1;1VOWEL SIGN VOCALIC R"),
   (0x110CD, "KAITHI NUMBER SIGN ABOVE"),
   (0x110D0, "SORA SOMPENG LETTER SAH;3TAH;3BAH;3CAH;3DAH;3GAH;3MAH;3NGAH;3LAH;3NAH;3VAH;3PAH;3YAH;
     3RAH;3HAH;3KAH;3JAH;3NYAH;3AH;3EEH;3IH;3UH;3OH;3EH;3MAE"),
   (0x110F0, "SORA SOMPENG DIGIT ZERO;3ONE;3TWO;3THREE;3FOUR;3FIVE;3SIX;3SEVEN;3EIGHT;3NINE"),
   (0x11100, "CHAKMA SIGN CANDRABINDU;2ANUSVARA;2VISARGA;1LETTER AA;2I;2U;2E;2KAA;2KHAA;2GAA;2GHAA;
     2NGAA;2CAA;2CHAA;2JAA;2JHAA;2NYAA;2TTAA;2TTHAA;2DDAA;2DDHAA;2NNAA;2TAA;2THAA;2DAA;2DHAA;2NAA;
     2PAA;2PHAA;2BAA;2BHAA;2MAA;2YYAA;2YAA;2RAA;2LAA;2WAA;2SAA;2HAA;1VOWEL SIGN A;3I;3II;3U;3UU;3E;
     3AI;3O;3AU;3OI;1O MARK;1AU/1;1VIRAMA;1MAAYYAA"),
   (0x11136, "CHAKMA DIGIT ZERO;2ONE;2TWO;2THREE;2FOUR;2FIVE;2SIX;2SEVEN;2EIGHT;2NINE;1SECTION MARK;
     1DANDA;1DOUBLE/1;1QUESTION MARK;1LETTER LHAA;1VOWEL SIGN AA;3EI;1LETTER VAA"),
   (0x11150, "MAHAJANI LETTER A;2I;2U;2E;2O;2KA;2KHA;2GA;2GHA;2CA;2CHA;2JA;2JHA;2NYA;2TTA;2TTHA;
     2DDA;2DDHA;2NNA;2TA;2THA;2DA;2DHA;2NA;2PA;2PHA;2BA;2BHA;2MA;2RA;2LA;2VA;2SA;2HA;2RRA;
     1SIGN NUKTA;1ABBREVIATION SIGN;1SECTION MARK;1LIGATURE SHRI"),
   (0x11180, "SHARADA SIGN CANDRABINDU;2ANUSVARA;2VISARGA;1LETTER A;2AA;2I;2II;2U;2UU;2VOCALIC R;
     3RR;3L;3LL;2E;2AI;2O;2AU;2KA;2KHA;2GA;2GHA;2NGA;2CA;2CHA;2JA;2JHA;2NYA;2TTA;2TTHA;2DDA;2DDHA;
     2NNA;2TA;2THA;2DA;2DHA;2NA;2PA;2PHA;2BA;2BHA;2MA;2YA;2RA;2LA;2LLA;2VA;2SHA;2SSA;2SA;2HA;
     1VOWEL SIGN AA;3I;3II;3U;3UU;3VOCALIC R;4RR;4L;4LL;3E;3AI;3O;3AU;1SIGN VIRAMA;2AVAGRAHA;
     2JIHVAMULIYA;2UPADHMANIYA;1OM;1DANDA;1DOUBLE/1;1ABBREVIATION SIGN;1SEPARATOR;1SANDHI MARK;
     1SIGN NUKTA;1VOWEL MODIFIER MARK;1EXTRA SHORT VOWEL/1;1SUTRA/1;1VOWEL SIGN PRISHTHAMATRA E;
     1SIGN INVERTED CANDRABINDU;1DIGIT ZERO;2ONE;2TWO;2THREE;2FOUR;2FIVE;2SIX;2SEVEN;2EIGHT;2NINE;
     1EKAM;1SIGN SIDDHAM;1HEADSTROKE;1CONTINUATION SIGN;1SECTION MARK-1;+1"),
   (0x111E1, "SINHALA ARCHAIC DIGIT ONE;3TWO;3THREE;3FOUR;3FIVE;3SIX;3SEVEN;3EIGHT;3NINE;
     2NUMBER TEN;3TWENTY;3THIRTY;3FORTY;3FIFTY;3SIXTY;3SEVENTY;3EIGHTY;3NINETY;3ONE HUNDRED;
     4THOUSAND"),
   (0x11200, "KHOJKI LETTER A;2AA;2I;2U;2E;2AI;2O;2AU;2KA;2KHA;2GA;2GGA;2GHA;2NGA;2CA;2CHA;2JA;
     2JJA"),
   (0x11213, "KHOJKI LETTER NYA;2TTA;2TTHA;2DDA;2DDHA;2NNA;2TA;2THA;2DA;2DDDA;2DHA;2NA;2PA;2PHA;2BA;
     2BBA;2BHA;2MA;2YA;2RA;2LA;2VA;2SA;2HA;2LLA;1VOWEL SIGN AA;3I;3II;3U;3E;3AI;3O;3AU;
     1SIGN ANUSVARA;2VIRAMA;2NUKTA;2SHADDA;1DANDA;1DOUBLE/1;1WORD SEPARATOR;1SECTION MARK;1DOUBLE/2;
     1ABBREVIATION SIGN;1SIGN SUKUN"),
   (0x11280, "MULTANI LETTER A;2I;2U;2E;2KA;2KHA;2GA"),
   (0x11288, "MULTANI LETTER GHA"),
   (0x1128A, "MULTANI LETTER CA;2CHA;2JA;2JJA"),
   (0x1128F, "MULTANI LETTER NYA;2TTA;2TTHA;2DDA;2DDDA;2DDHA;2NNA;2TA;2THA;2DA;2DHA;2NA;2PA;2PHA;
     2BA"),
   (0x1129F, "MULTANI LETTER BHA;2MA;2YA;2RA;2LA;2VA;2SA;2HA;2RRA;2RHA;1SECTION MARK"),
   (0x112B0, "KHUDAWADI LETTER A;2AA;2I;2II;2U;2UU;2E;2AI;2O;2AU;2KA;2KHA;2GA;2GGA;2GHA;2NGA;2CA;
     2CHA;2JA;2JJA;2JHA;2NYA;2TTA;2TTHA;2DDA;2DDDA;2RRA;2DDHA;2NNA;2TA;2THA;2DA;2DHA;2NA;2PA;2PHA;
     2BA;2BBA;2BHA;2MA;2YA;2RA;2LA;2VA;2SHA;2SA;2HA;1SIGN ANUSVARA;1VOWEL SIGN AA;3I;3II;3U;3UU;3E;
     3AI;3O;3AU;1SIGN NUKTA;2VIRAMA"),
   (0x112F0, "KHUDAWADI DIGIT ZERO;2ONE;2TWO;2THREE;2FOUR;2FIVE;2SIX;2SEVEN;2EIGHT;2NINE"),
   (0x11300, "GRANTHA SIGN COMBINING ANUSVARA ABOVE;2CANDRABINDU;2ANUSVARA;2VISARGA"),
   (0x11305, "GRANTHA LETTER A;2AA;2I;2II;2U;2UU;2VOCALIC R;3L"),
   (0x1130F, "GRANTHA LETTER EE;2AI"),
   (0x11313, "GRANTHA LETTER OO;2AU;2KA;2KHA;2GA;2GHA;2NGA;2CA;2CHA;2JA;2JHA;2NYA;2TTA;2TTHA;2DDA;
     2DDHA;2NNA;2TA;2THA;2DA;2DHA;2NA"),
   (0x1132A, "GRANTHA LETTER PA;2PHA;2BA;2BHA;2MA;2YA;2RA"),
   (0x11332, "GRANTHA LETTER LA;2LLA"),
   (0x11335, "GRANTHA LETTER VA;2SHA;2SSA;2SA;2HA"),
   (0x1133B, "COMBINING BINDU BELOW;GRANTHA SIGN NUKTA;2AVAGRAHA;1VOWEL SIGN AA;3I;3II;3U;3UU;
     3VOCALIC R;4RR"),
   (0x11347, "GRANTHA VOWEL SIGN EE;3AI"),
   (0x1134B, "GRANTHA VOWEL SIGN OO;3AU;1SIGN VIRAMA"),
   (0x11350, "GRANTHA OM"),
   (0x11357, "GRANTHA AU LENGTH MARK"),
   (0x1135D, "GRANTHA SIGN PLUTA;1LETTER VEDIC ANUSVARA;3DOUBLE/1;2VOCALIC RR;3LL;
     1VOWEL SIGN VOCALIC L;4LL"),
   (0x11366, "COMBINING GRANTHA DIGIT ZERO;3ONE;3TWO;3THREE;3FOUR;3FIVE;3SIX"),
   (0x11370, "COMBINING GRANTHA LETTER A;3KA;3NA;3VI;3PA"),
   (0x11400, "NEWA LETTER A;2AA;2I;2II;2U;2UU;2VOCALIC R;3RR;3L;3LL;2E;2AI;2O;2AU;2KA;2KHA;2GA;2GHA;
     2NGA;2NGHA;2CA;2CHA;2JA;2JHA;2NYA;2NYHA;2TTA;2TTHA;2DDA;2DDHA;2NNA;2TA;2THA;2DA;2DHA;2NA;2NHA;
     2PA;2PHA;2BA;2BHA;2MA;2MHA;2YA;2RA;2RHA;2LA;2LHA;2WA;2SHA;2SSA;2SA;2HA;1VOWEL SIGN AA;3I;3II;
     3U;3UU;3VOCALIC R;4RR;4L;4LL;3E;3AI;3O;3AU;1SIGN VIRAMA;2CANDRABINDU;2ANUSVARA;2VISARGA;2NUKTA;
     2AVAGRAHA;2FINAL ANUSVARA;1OM;1SIDDHI;1DANDA;1DOUBLE/1;1COMMA;1GAP FILLER;1ABBREVIATION SIGN;
     1DIGIT ZERO;2ONE;2TWO;2THREE;2FOUR;2FIVE;2SIX;2SEVEN;2EIGHT;2NINE;1DOUBLE COMMA;
     1PLACEHOLDER MARK"),
   (0x1145D, "NEWA INSERTION SIGN;1SANDHI MARK;1LETTER VEDIC ANUSVARA;1SIGN JIHVAMULIYA;
     2UPADHMANIYA"),
   (0x11480, "TIRHUTA ANJI;1LETTER A;2AA;2I;2II;2U;2UU;2VOCALIC R;3RR;3L;3LL;2E;2AI;2O;2AU;2KA;2KHA;
     2GA;2GHA;2NGA;2CA;2CHA;2JA;2JHA;2NYA;2TTA;2TTHA;2DDA;2DDHA;2NNA;2TA;2THA;2DA;2DHA;2NA;2PA;2PHA;
     2BA;2BHA;2MA;2YA;2RA;2LA;2VA;2SHA;2SSA;2SA;2HA;1VOWEL SIGN AA;3I;3II;3U;3UU;3VOCALIC R;4RR;4L;
     4LL;3E;3SHORT E;3AI;3O;3SHORT O;3AU;1SIGN CANDRABINDU;2ANUSVARA;2VISARGA;2VIRAMA;2NUKTA;
     2AVAGRAHA;1GVANG;1ABBREVIATION SIGN;1OM"),
   (0x114D0, "TIRHUTA DIGIT ZERO;2ONE;2TWO;2THREE;2FOUR;2FIVE;2SIX;2SEVEN;2EIGHT;2NINE"),
   (0x11580, "SIDDHAM LETTER A;2AA;2I;2II;2U;2UU;2VOCALIC R;3RR;3L;3LL;2E;2AI;2O;2AU;2KA;2KHA;2GA;
     2GHA;2NGA;2CA;2CHA;2JA;2JHA;2NYA;2TTA;2TTHA;2DDA;2DDHA;2NNA;2TA;2THA;2DA;2DHA;2NA;2PA;2PHA;2BA;
     2BHA;2MA;2YA;2RA;2LA;2VA;2SHA;2SSA;2SA;2HA;1VOWEL SIGN AA;3I;3II;3U;3UU;3VOCALIC R;4RR"),
   (0x115B8, "SIDDHAM VOWEL SIGN E;3AI;3O;3AU;1SIGN CANDRABINDU;2ANUSVARA;2VISARGA;2VIRAMA;2NUKTA;
     2SIDDHAM;1DANDA;1DOUBLE/1;1SEPARATOR DOT;2BAR;1REPETITION MARK-1;+2;1END OF TEXT MARK;
     1SECTION MARK WITH TRIDENT AND U-SHAPED ORNAMENTS;6DOTTED CRESCENTS;4RAYS/3;7DOUBLE/1;
     7TRIPLE/1;3DOUBLE RING;5WITH RAYS;3WITH DOUBLE CRESCENTS;4TRIPLE/1;4QUADRUPLE/1;4SEPTUPLE/1;
     4CIRCLES AND RAYS;6TWO ENCLOSURES;6FOUR/1;1LETTER THREE-CIRCLE ALTERNATE I;2TWO-CIRCLE/2;4II;
     2ALTERNATE U;1VOWEL SIGN/2;4UU"),
   (0x11600, "MODI LETTER A;2AA;2I;2II;2U;2UU;2VOCALIC R;3RR;3L;3LL;2E;2AI;2O;2AU;2KA;2KHA;2GA;2GHA;
     2NGA;2CA;2CHA;2JA;2JHA;2NYA;2TTA;2TTHA;2DDA;2DDHA;2NNA;2TA;2THA;2DA;2DHA;2NA;2PA;2PHA;2BA;2BHA;
     2MA;2YA;2RA;2LA;2VA;2SHA;2SSA;2SA;2HA;2LLA;1VOWEL SIGN AA;3I;3II;3U;3UU;3VOCALIC R;4RR;4L;4LL;
     3E;3AI;3O;3AU;1SIGN ANUSVARA;2VISARGA;2VIRAMA;2ARDHACANDRA;1DANDA;1DOUBLE/1;1ABBREVIATION SIGN;
     1SIGN HUVA"),
   (0x11650, "MODI DIGIT ZERO;2ONE;2TWO;2THREE;2FOUR;2FIVE;2SIX;2SEVEN;2EIGHT;2NINE"),
   (0x11660, "MONGOLIAN BIRGA WITH ORNAMENT;1ROTATED BIRGA;1DOUBLE BIRGA WITH ORNAMENT;1TRIPLE/3;
     1BIRGA WITH DOUBLE/1;1ROTATED BIRGA WITH/1;4DOUBLE/1;1INVERTED BIRGA;3WITH DOUBLE ORNAMENT;
     1SWIRL BIRGA;3WITH ORNAMENT;4DOUBLE/1;1TURNED/5"),
   (0x11680, "TAKRI LETTER A;2AA;2I;2II;2U;2UU;2E;2AI;2O;2AU;2KA;2KHA;2GA;2GHA;2NGA;2CA;2CHA;2JA;
     2JHA;2NYA;2TTA;2TTHA;2DDA;2DDHA;2NNA;2TA;2THA;2DA;2DHA;2NA;2PA;2PHA;2BA;2BHA;2MA;2YA;2RA;2LA;
     2VA;2SHA;2SA;2HA;2RRA;1SIGN ANUSVARA;2VISARGA;1VOWEL SIGN AA;3I;3II;3U;3UU;3E;3AI;3O;3AU;
     1SIGN VIRAMA;2NUKTA;1LETTER ARCHAIC KHA;1ABBREVIATION SIGN"),
   (0x116C0, "TAKRI DIGIT ZERO;2ONE;2TWO;2THREE;2FOUR;2FIVE;2SIX;2SEVEN;2EIGHT;2NINE"),
   (0x11700, "AHOM LETTER KA;2KHA;2NGA;2NA;2TA;2ALTERNATE/1;2PA;2PHA;2BA;2MA;2JA;2CHA;2THA;2RA;2LA;
     2SA;2NYA;2HA;2A;2DA;2DHA;2GA;2ALTERNATE/1;2GHA;2BHA;2JHA;2ALTERNATE BA"),
   (0x1171D, "AHOM CONSONANT SIGN MEDIAL LA;4RA;4LIGATING/1;1VOWEL SIGN A;3AA;3I;3II;3U;3UU;3E;3AW;
     3O;3AI;3AM;1SIGN KILLER"),
   (0x11730, "AHOM DIGIT ZERO;2ONE;2TWO;2THREE;2FOUR;2FIVE;2SIX;2SEVEN;2EIGHT;2NINE;1NUMBER TEN;
     2TWENTY;1SIGN SMALL SECTION;1SIGN/1;2RULAI;1SYMBOL VI;1LETTER CA;2TTA;2TTHA;2DDA;2DDHA;2NNA;
     2LLA"),
   (0x11800, "DOGRA LETTER A;2AA;2I;2II;2U;2UU;2E;2AI;2O;2AU;2KA;2KHA;2GA;2GHA;2NGA;2CA;2CHA;2JA;
     2JHA;2NYA;2TTA;2TTHA;2DDA;2DDHA;2NNA;2TA;2THA;2DA;2DHA;2NA;2PA;2PHA;2BA;2BHA;2MA;2YA;2RA;2LA;
     2VA;2SHA;2SSA;2SA;2HA;2RRA;1VOWEL SIGN AA;3I;3II;3U;3UU;3VOCALIC R;4RR;3E;3AI;3O;3AU;
     1SIGN ANUSVARA;2VISARGA;2VIRAMA;2NUKTA;1ABBREVIATION SIGN"),
   (0x118A0, "WARANG CITI CAPITAL LETTER NGAA;4A;4WI;4YU;4YA;4YO;4II;4UU;4E;4O;4ANG;4GA;4KO;4ENY;
     4YUJ;4UC;4ENN;4ODD;4TTE;4NUNG;4DA;4AT;4AM;4BU;4PU;4HIYO;4HOLO;4HORR;4HAR;4SSUU;4SII;4VIYO;
     2SMALL LETTER NGAA;4A;4WI;4YU;4YA;4YO;4II;4UU;4E;4O;4ANG;4GA;4KO;4ENY;4YUJ;4UC;4ENN;4ODD;4TTE;
     4NUNG;4DA;4AT;4AM;4BU;4PU;4HIYO;4HOLO;4HORR;4HAR;4SSUU;4SII;4VIYO;2DIGIT ZERO;3ONE;3TWO;3THREE;
     3FOUR;3FIVE;3SIX;3SEVEN;3EIGHT;3NINE;2NUMBER TEN;3TWENTY;3THIRTY;3FORTY;3FIFTY;3SIXTY;3SEVENTY;
     3EIGHTY;3NINETY"),
   (0x118FF, "WARANG CITI OM"),
   (0x11900, "DIVES AKURU LETTER A;3AA;3I;3II;3U;3UU;3E"),
   (0x11909, "DIVES AKURU LETTER O"),
   (0x1190C, "DIVES AKURU LETTER KA;3KHA;3GA;3GHA;3NGA;3CA;3CHA;3JA"),
   (0x11915, "DIVES AKURU LETTER NYA;3TTA"),
   (0x11918, "DIVES AKURU LETTER DDA;3DDHA;3NNA;3TA;3THA;3DA;3DHA;3NA;3PA;3PHA;3BA;3BHA;3MA;3YA;
     3YYA;3RA;3LA;3VA;3SHA;3SSA;3SA;3HA;3LLA;3ZA;2VOWEL SIGN AA;4I;4II;4U;4UU;4E"),
   (0x11937, "DIVES AKURU VOWEL SIGN AI;4O"),
   (0x1193B, "DIVES AKURU SIGN ANUSVARA;3CANDRABINDU;3HALANTA;2VIRAMA;2PREFIXED NASAL SIGN;
     2MEDIAL YA;2INITIAL RA;2MEDIAL/1;2SIGN NUKTA;2DOUBLE DANDA;2GAP FILLER;2END OF TEXT MARK"),
   (0x11950, "DIVES AKURU DIGIT ZERO;3ONE;3TWO;3THREE;3FOUR;3FIVE;3SIX;3SEVEN;3EIGHT;3NINE"),
   (0x119A0, "NANDINAGARI LETTER A;2AA;2I;2II;2U;2UU;2VOCALIC R;3RR"),
   (0x119AA, "NANDINAGARI LETTER E;2AI;2O;2AU;2KA;2KHA;2GA;2GHA;2NGA;2CA;2CHA;2JA;2JHA;2NYA;2TTA;
     2TTHA;2DDA;2DDHA;2NNA;2TA;2THA;2DA;2DHA;2NA;2PA;2PHA;2BA;2BHA;2MA;2YA;2RA;2LA;2VA;2SHA;2SSA;
     2SA;2HA;2LLA;2RRA;1VOWEL SIGN AA;3I;3II;3U;3UU;3VOCALIC R;4RR"),
   (0x119DA, "NANDINAGARI VOWEL SIGN E;3AI;3O;3AU;1SIGN ANUSVARA;2VISARGA;2VIRAMA;2AVAGRAHA;
     2SIDDHAM;1HEADSTROKE;1VOWEL SIGN PRISHTHAMATRA E"),
   (0x11A00, "ZANABAZAR SQUARE LETTER A;2VOWEL SIGN I;4UE;4U;4E;4OE;4O;4AI;4AU;4REVERSED I;
     3LENGTH MARK;2LETTER KA;3KHA;3GA;3GHA;3NGA;3CA;3CHA;3JA;3NYA;3TTA;3TTHA;3DDA;3DDHA;3NNA;3TA;
     3THA;3DA;3DHA;3NA;3PA;3PHA;3BA;3BHA;3MA;3TSA;3TSHA;3DZA;3DZHA;3ZHA;3ZA;3-A;3YA;3RA;3LA;3VA;
     3SHA;3SSA;3SA;3HA;3KSSA;2FINAL CONSONANT MARK;2SIGN VIRAMA;3CANDRABINDU;4WITH ORNAMENT;
     3CANDRA/2;3ANUSVARA;3VISARGA;2CLUSTER-INITIAL LETTER RA;2CLUSTER-FINAL LETTER YA;4RA;4LA;4VA;
     2INITIAL HEAD MARK;2CLOSING/2;2MARK TSHEG;3SHAD;3DOUBLE/1;3LONG TSHEG;
     2INITIAL DOUBLE-LINED HEAD MARK;2CLOSING/3;2SUBJOINER"),
   (0x11A50, "SOYOMBO LETTER A;1VOWEL SIGN I;3UE;3U;3E;3O;3OE;3AI;3AU;3VOCALIC R;4L;2LENGTH MARK;
     1LETTER KA;2KHA;2GA;2GHA;2NGA;2CA;2CHA;2JA;2JHA;2NYA;2TTA;2TTHA;2DDA;2DDHA;2NNA;2TA;2THA;2DA;
     2DHA;2NA;2PA;2PHA;2BA;2BHA;2MA;2TSA;2TSHA;2DZA;2ZHA;2ZA;2-A;2YA;2RA;2LA;2VA;2SHA;2SSA;2SA;2HA;
     2KSSA;1SIGN JIHVAMULIYA;2UPADHMANIYA;1CLUSTER-INITIAL LETTER RA;3LA;3SHA;3SA;
     1FINAL CONSONANT SIGN G;4K;4NG;4D;4N;4B;4M;4R;4L;4SH;4S;4-A;1SIGN ANUSVARA;2VISARGA;
     1GEMINATION MARK;1SUBJOINER;1MARK TSHEG;2SHAD;2DOUBLE/1;2PLUTA;
     1HEAD MARK WITH MOON AND SUN AND TRIPLE FLAME;7AND/1;6SUN;1TERMINAL MARK-1;+1"),
   (0x11AB0, "CANADIAN SYLLABICS NATTILIK HI;3HII;3HO;3HOO;3HA;3HAA;3SHRI;3SHRII;3SHRO;3SHROO;3SHRA;
     3SHRAA;2SPE;2SPI;2SPO;2SPA;PAU CIN HAU LETTER PA;4KA;4LA;4MA;4DA;4ZA;4VA;4NGA;4HA;4GA;4KHA;4SA;
     4BA;4CA;4TA;4THA;4NA;4PHA;4RA;4FA;4CHA;4A;4E;4I;4O;4U;4UA;4IA;4FINAL P;5K;5T;5M;+1;5L;5W;5NG;
     5Y;3RISING TONE LONG;4TONE;3SANDHI GLOTTAL STOP;3RISING TONE LONG FINAL;5FINAL;
     3SANDHI GLOTTAL STOP/1;4TONE LONG;4TONE;5LONG FINAL;5FINAL;3MID-LEVEL TONE;
     3GLOTTAL STOP VARIANT;3MID-LEVEL TONE LONG FINAL;5FINAL;3LOW-FALLING TONE LONG;4TONE;
     3GLOTTAL STOP;3LOW-FALLING TONE LONG FINAL;5FINAL;3GLOTTAL STOP/1"),
   (0x11C00, "BHAIKSUKI LETTER A;2AA;2I;2II;2U;2UU;2VOCALIC R;3RR;3L"),
   (0x11C0A, "BHAIKSUKI LETTER E;2AI;2O;2AU;2KA;2KHA;2GA;2GHA;2NGA;2CA;2CHA;2JA;2JHA;2NYA;2TTA;
     2TTHA;2DDA;2DDHA;2NNA;2TA;2THA;2DA;2DHA;2NA;2PA;2PHA;2BA;2BHA;2MA;2YA;2RA;2LA;2VA;2SHA;2SSA;
     2SA;2HA;1VOWEL SIGN AA;3I;3II;3U;3UU;3VOCALIC R;4RR;4L"),
   (0x11C38, "BHAIKSUKI VOWEL SIGN E;3AI;3O;3AU;1SIGN CANDRABINDU;2ANUSVARA;2VISARGA;2VIRAMA;
     2AVAGRAHA;1DANDA;1DOUBLE/1;1WORD SEPARATOR;1GAP FILLER-1;+1"),
   (0x11C50, "BHAIKSUKI DIGIT ZERO;2ONE;2TWO;2THREE;2FOUR;2FIVE;2SIX;2SEVEN;2EIGHT;2NINE;
     1NUMBER ONE;2TWO;2THREE;2FOUR;2FIVE;2SIX;2SEVEN;2EIGHT;2NINE;2TEN;2TWENTY;2THIRTY;2FORTY;
     2FIFTY;2SIXTY;2SEVENTY;2EIGHTY;2NINETY;1HUNDREDS UNIT MARK"),
   (0x11C70, "MARCHEN HEAD MARK;1MARK SHAD;1LETTER KA;2KHA;2GA;2NGA;2CA;2CHA;2JA;2NYA;2TA;2THA;2DA;
     2NA;2PA;2PHA;2BA;2MA;2TSA;2TSHA;2DZA;2WA;2ZHA;2ZA;2-A;2YA;2RA;2LA;2SHA;2SA;2HA;2A"),
   (0x11C92, "MARCHEN SUBJOINED LETTER KA;3KHA;3GA;3NGA;3CA;3CHA;3JA;3NYA;3TA;3THA;3DA;3NA;3PA;3PHA;
     3BA;3MA;3TSA;3TSHA;3DZA;3WA;3ZHA;3ZA"),
   (0x11CA9, "MARCHEN SUBJOINED LETTER YA;3RA;3LA;3SHA;3SA;3HA;3A;1VOWEL SIGN AA;3I;3U;3E;3O;
     1SIGN ANUSVARA;2CANDRABINDU"),
   (0x11D00, "MASARAM GONDI LETTER A;3AA;3I;3II;3U;3UU;3E"),
   (0x11D08, "MASARAM GONDI LETTER AI;3O"),
   (0x11D0B, "MASARAM GONDI LETTER AU;3KA;3KHA;3GA;3GHA;3NGA;3CA;3CHA;3JA;3JHA;3NYA;3TTA;3TTHA;3DDA;
     3DDHA;3NNA;3TA;3THA;3DA;3DHA;3NA;3PA;3PHA;3BA;3BHA;3MA;3YA;3RA;3LA;3VA;3SHA;3SSA;3SA;3HA;3LLA;
     3KSSA;3JNYA;3TRA;2VOWEL SIGN AA;4I;4II;4U;4UU;4VOCALIC R"),
   (0x11D3A, "MASARAM GONDI VOWEL SIGN E"),
   (0x11D3C, "MASARAM GONDI VOWEL SIGN AI;4O"),
   (0x11D3F, "MASARAM GONDI VOWEL SIGN AU;2SIGN ANUSVARA;3VISARGA;3NUKTA;3CANDRA;3HALANTA;2VIRAMA;
     2REPHA;2RA-KARA"),
   (0x11D50, "MASARAM GONDI DIGIT ZERO;3ONE;3TWO;3THREE;3FOUR;3FIVE;3SIX;3SEVEN;3EIGHT;3NINE"),
   (0x11D60, "GUNJALA GONDI LETTER A;3AA;3I;3II;3U;3UU"),
   (0x11D67, "GUNJALA GONDI LETTER EE;3AI"),
   (0x11D6A, "GUNJALA GONDI LETTER OO;3AU;3YA;3VA;3BA;3BHA;3MA;3KA;3KHA;3TA;3THA;3LA;3GA;3GHA;3DA;
     3DHA;3NA;3CA;3CHA;3TTA;3TTHA;3LLA;3JA;3JHA;3DDA;3DDHA;3NGA;3PA;3PHA;3HA;3RA;3SA;2VOWEL SIGN AA;
     4I;4II;4U;4UU"),
   (0x11D90, "GUNJALA GONDI VOWEL SIGN EE;4AI"),
   (0x11D93, "GUNJALA GONDI VOWEL SIGN OO;4AU;2SIGN ANUSVARA;3VISARGA;2VIRAMA;2OM"),
   (0x11DA0, "GUNJALA GONDI DIGIT ZERO;3ONE;3TWO;3THREE;3FOUR;3FIVE;3SIX;3SEVEN;3EIGHT;3NINE"),
   (0x11EE0, "MAKASAR LETTER KA;2GA;2NGA;2PA;2BA;2MA;2TA;2DA;2NA;2CA;2JA;2NYA;2YA;2RA;2LA;2VA;2SA;
     2A;1ANGKA;1VOWEL SIGN I;3U;3E;3O;1PASSIMBANG;1END OF SECTION"),
   (0x11FB0, "LISU LETTER YHA"),
   (0x11FC0, "TAMIL FRACTION ONE THREE-HUNDRED-AND-TWENTIETH;3ONE-HUNDRED-AND-SIXTIETH;3EIGHTIETH;
     3SIXTY-FOURTH;3FORTIETH;3THIRTY-SECOND;2THREE EIGHTIETHS;3SIXTY-FOURTHS;2ONE TWENTIETH;
     3SIXTEENTH-1;+1;3TENTH;3EIGHTH;2THREE TWENTIETHS;3SIXTEENTHS;2ONE FIFTH;3QUARTER;3HALF-1;+1;
     2THREE QUARTERS;2DOWNSCALING FACTOR KIIZH;1SIGN NEL;2CEVITU;2AAZHAAKKU;2UZHAKKU;2MUUVUZHAKKU;
     2KURUNI;2PATHAKKU;2MUKKURUNI;2KAACU;2PANAM;2PON;2VARAAKAN;2PAARAM;2KUZHI;2VELI;
     1WET CULTIVATION SIGN;1DRY/2;1LAND/1;1SALT PAN/1;1TRADITIONAL CREDIT/1;2NUMBER/1;1CURRENT/1;
     1AND ODD/1;1SPENT/1;1TOTAL/1;1IN POSSESSION/1;1STARTING FROM/1;1SIGN MUTHALIYA;2VAKAIYARAA"),
   (0x11FFF, "TAMIL PUNCTUATION END OF TEXT"),
   (0x12000, "CUNEIFORM SIGN A;3TIMES A;4BAD;4GAN2 TENU;4HA;4IGI;4LAGAR GUNU;4MUSH;4SAG;2A2;2AB;
     3TIMES ASH2;4DUN3 GUNU;4GAL;4GAN2 TENU;4HA;4IGI GUNU;4IMIN;4LAGAB;4SHESH;4U PLUS U PLUS U;
     3GUNU;2AB2;3TIMES BALAG;4GAN2 TENU;4ME PLUS EN;4SHA3;4TAK4;2AD;2AK;3TIMES ERIN2;
     4SHITA PLUS GISH;2AL;3TIMES AL;4DIM2;4GISH;4HA;4KAD3;4KI;4SHE;4USH;2ALAN;2ALEPH;2AMAR;
     3TIMES SHE;2AN;3OVER AN;3THREE TIMES;3PLUS NAGA OPPOSING AN PLUS NAGA;5SQUARED;2ANSHE;2APIN;
     2ARAD;3TIMES KUR;2ARKAB;2ASAL2;2ASH;3ZIDA TENU;3KABA/1;
     3OVER ASH TUG2 OVER TUG2 TUG2 OVER TUG2 PAP;5OVER ASH;7CROSSING ASH OVER ASH OVER ASH;2ASH2;
     2ASHGAB;2BA;2BAD;2BAG3;2BAHAR2;2BAL;3OVER BAL;2BALAG;2BAR;2BARA2;2BI;3TIMES A;4GAR;4IGI GUNU;
     2BU;3OVER BU AB;5UN;3CROSSING BU;2BULUG;3OVER BULUG;2BUR;2BUR2;2DA;2DAG;
     3KISIM5 TIMES A PLUS MASH;5AMAR;5BALAG;5BI;5GA;6PLUS MASH;5GI;5GIR2;5GUD;5HA;5IR;6PLUS LU;5KAK;
     5LA;5LU;6PLUS MASH2;5LUM;5NE;5PAP PLUS PAP;5SI;5TAK4;5U2 PLUS GIR2;5USH;2DAM;2DAR;2DARA3;+1;
     2DI;2DIB;2DIM;3TIMES SHE;2DIM2;2DIN;3KASKAL U GUNU DISH;2DISH;2DU;3OVER DU;3GUNU;3SHESHIG;2DUB;
     3TIMES ESH2;2DUB2;2DUG;2DUGUD;2DUH;2DUN;2DUN3;3GUNU;4GUNU;2DUN4;2DUR2;2E;3TIMES PAP;
     3OVER E NUN OVER NUN;2E2;3TIMES A PLUS HA PLUS DA;4GAR;4MI;4SAL;4SHE;4U;2EDIN;2EGIR;2EL;2EN;
     3TIMES GAN2;5TENU;4ME;3CROSSING EN;3OPPOSING/1;3SQUARED;2EREN;2ERIN2;2ESH2;2EZEN;3TIMES A;
     5PLUS LAL;7TIMES LAL;4AN;4BAD;4DUN3 GUNU;6GUNU;4HA;5GUNU;4IGI/1;4KASKAL;5SQUARED;4KU3;4LA;
     4LAL TIMES LAL;4LI;4LU;4U2;4UD;2GA;3GUNU;2GA2;3TIMES A PLUS DA PLUS HA;6HA;6IGI;
     4AB2 TENU PLUS TAB;4AN;4ASH;4ASH2 PLUS GAL;4BAD;4BAR PLUS RA;4BUR;5PLUS RA;4DA;4DI;
     4DIM TIMES SHE;4DUB;4EL;5PLUS LA;4EN;5TIMES GAN2 TENU;4GAN2/1;4GAR;4GI;4GI4;5PLUS A;
     4GIR2 PLUS SU;4HA PLUS LU PLUS ESH2;4HAL;5PLUS LA;4HI PLUS LI;4HUB2;4IGI GUNU;
     4ISH PLUS HU PLUS ASH;4KAK;4KASKAL;4KID;5PLUS LAL;4KU3 PLUS AN;4LA;4ME PLUS EN;4MI;4NUN;
     5OVER NUN;4PA;4SAL;4SAR;4SHE;5PLUS TUR;4SHID;4SUM;4TAK4;4U;4UD;5PLUS DU;3OVER GA2;2GABA;
     3CROSSING GABA;2GAD;3OVER GAD GAR OVER GAR;2GAL;3GAD OVER GAD GAR OVER GAR;2GALAM;2GAM;+1;
     2GAN2;3TENU;3OVER GAN2;3CROSSING/1;2GAR;2GAR3;2GASHAN;2GESHTIN;3TIMES KUR"),
   (0x12100, "CUNEIFORM SIGN GI;3TIMES E;4U;3CROSSING GI;2GI4;3OVER GI4;3CROSSING/1;2GIDIM;2GIR2;
     3GUNU;2GIR3;3TIMES A PLUS IGI;4GAN2 TENU;4IGI;4LU PLUS/1;4PA;2GISAL;2GISH;3CROSSING GISH;
     3TIMES BAD;4TAK4;3TENU;2GU;3CROSSING GU;2GU2;3TIMES KAK;5TIMES IGI GUNU;4NUN;4SAL PLUS TUG2;
     3GUNU;2GUD;3TIMES A PLUS KUR;4KUR;3OVER GUD LUGAL;2GUL;+1;3TIMES SHE;2GUR;2GUR7;2GURUN;2GURUSH;
     2HA;3TENU;3GUNU;2HAL;2HI;3TIMES ASH;4ASH2;4BAD;4DISH;4GAD;4KIN;4NUN;4SHE;4U;2HU;2HUB2;
     3TIMES AN;4HAL;4KASKAL;4LISH;4UD;2HUL2;2I;3A;2IB;2IDIM;3OVER IDIM BUR;5SQUARED;2IG;2IGI;3DIB;
     3RI;3OVER IGI SHIR OVER SHIR UD OVER UD;3GUNU;2IL;3TIMES GAN2 TENU;2IL2;2IM;3TIMES TAK4;
     3CROSSING IM;3OPPOSING/1;3SQUARED;2IMIN;2IN;2IR;2ISH;2KA;3TIMES A;4AD;5PLUS KU3;4ASH2;4BAD;
     4BALAG;4BAR;4BI;4ERIN2;4ESH2;4GA;4GAL;4GAN2 TENU;4GAR;5PLUS SHA3 PLUS A;4GI;4GIR2;
     4GISH PLUS SAR;5CROSSING GISH;4GU;4GUR7;4IGI;4IM;4KAK;4KI;4KID;4LI;4LU;4ME;5PLUS DU;6GI;6TE;
     4MI;5PLUS NUNUZ;4NE;4NUN;4PI;4RU;4SA;4SAR;4SHA;4SHE;4SHID;4SHU;4SIG;4SUHUR;4TAR;4U;4U2;4UD;
     4UMUM TIMES PA;4USH;4ZI;2KA2;3CROSSING KA2;2KAB;2KAD2;+3;3OVER KAD5;2KAK;3TIMES IGI GUNU;2KAL;
     3TIMES BAD;3CROSSING KAL;2KAM2;2KAM4;2KASKAL;3LAGAB TIMES U OVER LAGAB TIMES U;3OVER KASKAL/7;
     2KESH2;2KI;3TIMES BAD;4U;4UD;2KID;2KIN;2KISAL;2KISH;2KISIM5;3OVER KISIM5;2KU;
     3OVER HI TIMES ASH2 KU OVER HI TIMES ASH2;2KU3;+1;3VARIANT FORM;2KU7;2KUL;3GUNU;2KUN;2KUR;
     3OPPOSING KUR;2KUSHU2;2KWU318;2LA;2LAGAB;3TIMES A;5PLUS DA PLUS HA;6GAR;6LAL;4AL;4AN;
     4ASH ZIDA TENU;4BAD;4BI;4DAR;4EN;4GA;4GAR;4GUD;5PLUS GUD;4HA;4HAL;4HI TIMES NUN;4IGI GUNU;4IM;
     5PLUS HA;6LU;4KI;4KIN;4KU3;4KUL;5PLUS HI PLUS A;4LAGAB;4LISH;4LU;4LUL;4ME;5PLUS EN;4MUSH;4NE;
     4SHE PLUS SUM;4SHITA PLUS GISH PLUS ERIN2;7TENU;4SHU2;5PLUS SHU2;4SUM;4TAG;4TAK4;
     4TE PLUS A PLUS SU PLUS NA;4U;5PLUS A;6U PLUS U;4U2 PLUS ASH;4UD;4USH;3SQUARED;2LAGAR;
     3TIMES SHE;5PLUS SUM;3GUNU;4OVER LAGAR GUNU SHE;2LAHSHU;2LAL;3TIMES LAL;2LAM;3TIMES KUR;
     5PLUS RU;2LI;2LIL;2LIMMU2;2LISH;2LU;3TIMES BAD;2LU2;3TIMES AL;4BAD"),
   (0x12200, "CUNEIFORM SIGN LU2 TIMES ESH2;5TENU;4GAN2/1;4HI TIMES BAD;4IM;4KAD2;+1;5PLUS ASH;4KI;
     4LA PLUS ASH;4LAGAB;4ME PLUS EN;4NE;4NU;4SI PLUS ASH;4SIK2 PLUS BU;4TUG2;3TENU;3CROSSING LU2;
     3OPPOSING/1;3SQUARED;3SHESHIG;2LU3;2LUGAL;3OVER LUGAL;3OPPOSING/1;3SHESHIG;2LUH;2LUL;+1;
     3OVER LUM;5GAR OVER GAR;2MA;3TIMES TAK4;3GUNU;2MA2;2MAH;2MAR;2MASH;2MASH2;2ME;2MES;2MI;2MIN;
     2MU;3OVER MU;2MUG;3GUNU;2MUNSUB;2MURGU2;2MUSH;3TIMES A;4KUR;4ZA;3OVER MUSH;5TIMES A PLUS NA;
     3CROSSING MUSH;2MUSH3;3TIMES A;5PLUS DI;4DI;3GUNU;2NA;2NA2;2NAGA;3INVERTED;3TIMES SHU TENU;
     3OPPOSING NAGA;2NAGAR;2NAM NUTILLU;2NAM;2NAM2;2NE;3TIMES A;4UD;3SHESHIG;2NI;3TIMES E;2NI2;2NIM;
     3TIMES GAN2 TENU;4GAR PLUS/2;2NINDA2;3TIMES AN;4ASH;5PLUS ASH;4GUD;4ME PLUS GAN2 TENU;4NE;4NUN;
     4SHE;5PLUS A AN;6ASH;7PLUS ASH;4U2/2;4USH;2NISAG;2NU;2NU11;2NUN;3LAGAR TIMES GAR;5MASH;5SAL;
     6OVER NUN LAGAR TIMES SAL;5USH;3TENU;3OVER NUN;3CROSSING/1;5LAGAR OVER LAGAR;2NUNUZ;
     3AB2 TIMES ASHGAB;5BI;5DUG;5GUD;5IGI GUNU;5KAD3;5LA;5NE;5SILA3;5U2;3KISIM5 TIMES BI;6U;2PA;
     2PAD;2PAN;2PAP;2PESH2;2PI;3TIMES A;4AB;4BI;4BU;4E;4I;4IB;4U;4U2;3CROSSING PI;2PIRIG;3TIMES KAL;
     4UD;4ZA;3OPPOSING PIRIG;2RA;2RAB;2RI;2RU;2SA;2SAG NUTILLU;2SAG;3TIMES A;4DU;4DUB;4HA;4KAK;4KUR;
     4LUM;4MI;4NUN;4SAL;4SHID;4TAB;4U2;4UB;4UM;4UR;4USH;3OVER SAG;3GUNU;2SAL;3LAGAB TIMES ASH2;
     2SANGA2;2SAR;2SHA;2SHA3;3TIMES A;4BAD;4GISH;4NE;4SHU2;4TUR;4U;5PLUS A;2SHA6;2SHAB6;2SHAR2;2SHE;
     3HU;3OVER SHE GAD OVER GAD GAR OVER GAR;5TAB OVER TAB/3;2SHEG9;2SHEN;2SHESH;2SHESH2;2SHESHLAM;
     2SHID;3TIMES A;4IM;2SHIM;3TIMES A;4BAL;4BULUG;4DIN;4GAR;4IGI;5GUNU;4KUSHU2;4LUL;4MUG;4SAL;
     2SHINIG;2SHIR;3TENU;3OVER SHIR BUR OVER BUR;2SHITA;2SHU;3OVER INVERTED SHU;2SHU2;2SHUBUR;2SI;
     3GUNU;2SIG;2SIG4;3OVER SIG4 SHU2;2SIK2;2SILA3;2SU;3OVER SU;2SUD;2SUD2;2SUHUR;2SUM;2SUMASH;2SUR;
     2SUR9;2TA;3ASTERISK;3TIMES HI;4MI;3GUNU;2TAB;3OVER TAB NI OVER NI DISH OVER DISH;3SQUARED;2TAG;
     3TIMES BI;4GUD;4SHE;4SHU;4TUG2;4UD;2TAK4;2TAR;2TE;3GUNU;2TI;3TENU"),
   (0x12300, "CUNEIFORM SIGN TIL;2TIR;3TIMES TAK4;3OVER TIR;5GAD OVER GAD GAR OVER GAR;2TU;2TUG2;
     2TUK;2TUM;2TUR;3OVER TUR ZA OVER ZA;2U;3GUD;3U U;3OVER U PA OVER PA GAR OVER GAR;5SUR OVER SUR;
     5U REVERSED OVER U REVERSED;2U2;2UB;2UD;3KUSHU2;3TIMES BAD;4MI;4U PLUS U PLUS U;9GUNU;2UD/1;
     3SHESHIG;4TIMES BAD;2UDUG;2UM;3TIMES LAGAB;4ME PLUS DA;4SHA3;4U;2UMBIN;2UMUM;3TIMES KASKAL;4PA;
     2UN;3GUNU;2UR;3CROSSING UR;3SHESHIG;2UR2;3TIMES A PLUS HA;6NA;4AL;4HA;4NUN;4U2;5PLUS ASH;6BI;
     2UR4;2URI;2URI3;2URU;3TIMES A;4ASHGAB;4BAR;4DUN;4GA;4GAL;4GAN2 TENU;4GAR;4GU;4HA;4IGI;4IM;4ISH;
     4KI;4LUM;4MIN;4PA;4SHE;4SIG4;4TU;4U PLUS GUD;4UD;4URUDA;2URUDA;3TIMES U;2USH;3TIMES A;4KU;4KUR;
     4TAK4;2USHX;2USH2;2USHUMX;2UTUKI;2UZ3;3TIMES KASKAL;2UZU;2ZA;3TENU;3SQUARED TIMES KUR;2ZAG;
     2ZAMX;2ZE2;2ZI;3OVER ZI;2ZI3;2ZIB;3KABA TENU;2ZIG;2ZIZ2;2ZU;2ZU5;3TIMES A;2ZUBUR;2ZUM;
     2KAP ELAMITE;2AB TIMES NUN;2AB2 TIMES A;2AMAR TIMES KUG;2DAG KISIM5 TIMES U2 PLUS MASH;2DAG3;
     2DISH PLUS SHU;2DUB TIMES SHE;2EZEN TIMES GUD;4SHE;2GA2 TIMES AN PLUS KAK PLUS A;4ASH2;2GE22;
     2GIG;2HUSH;2KA TIMES ANSHE;4ASH3;4GISH;4GUD;4HI TIMES ASH2;4LUM;4PA;4SHUL;4TU;4UR2;
     2LAGAB TIMES GI;2LU2 SHESHIG TIMES BAD;3TIMES ESH2 PLUS LAL;4SHU;2MESH;2MUSH3 TIMES ZA;2NA4;
     2NIN;2NIN9;2NINDA2 TIMES BAL;4GI;2NU11 ROTATED NINETY DEGREES;2PESH2 ASTERISK;2PIR2;
     2SAG TIMES IGI GUNU;2TI2;2UM TIMES ME;2U U"),
   (0x12400, "CUNEIFORM NUMERIC SIGN TWO ASH;3THREE/1;3FOUR/1;3FIVE/1;3SIX/1;3SEVEN/1;3EIGHT/1;
     3NINE/1;3THREE DISH;3FOUR/1;3FIVE/1;3SIX/1;3SEVEN/1;3EIGHT/1;3NINE/1;3FOUR U;3FIVE U;3SIX U;
     3SEVEN U;3EIGHT U;3NINE U;3ONE GESH2;3TWO/1;3THREE/1;3FOUR/1;3FIVE/1;3SIX/1;3SEVEN/1;3EIGHT/1;
     3NINE/1;3ONE GESHU;3TWO/1;3THREE/1;3FOUR/1;3FIVE/1;3TWO SHAR2;3THREE/1;5VARIANT FORM;
     3FOUR SHAR2;3FIVE/1;3SIX/1;3SEVEN/1;3EIGHT/1;3NINE/1;3ONE SHARU;3TWO/1;3THREE/1;5VARIANT FORM;
     3FOUR SHARU;3FIVE/1;3SHAR2 TIMES GAL PLUS DISH;7MIN;3ONE BURU;3TWO/1;3THREE/1;5VARIANT FORM;
     3FOUR BURU;3FIVE/1;3THREE VARIANT FORM ESH16;6ESH21;3FOUR VARIANT FORM LIMMU;6LIMMU4;6LIMMU A;
     +1;3SIX VARIANT FORM ASH9;3SEVEN VARIANT FORM IMIN3;6IMIN A;+1;3EIGHT VARIANT FORM USSU;6USSU3;
     3NINE VARIANT FORM ILIMMU;6ILIMMU3;+1;6ILIMMU A;3TWO ASH TENU;3THREE/2;3FOUR/2;3FIVE/2;3SIX/2;
     3ONE BAN2;3TWO/1;3THREE/1;3FOUR/1;5VARIANT FORM;3FIVE BAN2;5VARIANT FORM;3NIGIDAMIN;3NIGIDAESH;
     3ONE ESHE3;3TWO/1;3ONE THIRD DISH;3TWO THIRDS/1;3FIVE SIXTHS/1;3ONE THIRD VARIANT FORM A;
     3TWO THIRDS/3;3ONE EIGHTH ASH;4QUARTER/1;3OLD ASSYRIAN ONE SIXTH;6QUARTER;3ONE QUARTER GUR;
     4HALF/1;3ELAMITE ONE THIRD;4TWO THIRDS;4FORTY;4FIFTY;3FOUR U VARIANT FORM;3FIVE/3;3SIX/3;
     3SEVEN/3;3EIGHT/3;3NINE/3"),
   (0x12470, "CUNEIFORM PUNCTUATION SIGN OLD ASSYRIAN WORD DIVIDER;3VERTICAL COLON;3DIAGONAL/1;
     4TRICOLON;4QUADCOLON"),
   (0x12480, "CUNEIFORM SIGN AB TIMES NUN TENU;4SHU2;2AD TIMES ESH2;2BAD TIMES DISH TENU;
     2BAHAR2 TIMES AB2;4NI;4ZA;2BU OVER BU TIMES NA2;2DA TIMES TAK4;2DAG TIMES KUR;2DIM TIMES IGI;
     4U U U;2DIM2 TIMES UD;2DUG TIMES ANSHE;4ASH;5AT LEFT;4DIN;4DUN;4ERIN2;4GA;4GI;4GIR2 GUNU;4GISH;
     4HA;4HI;4IGI GUNU;4KASKAL;4KUR;4KUSHU2;5PLUS KASKAL;4LAK-020;4LAM;5TIMES KUR;4LUH PLUS GISH;
     4MASH;4MES;4MI;4NI;4PI;4SHE;4SI GUNU;2E2 TIMES KUR;4PAP;2ERIN2 X;2ESH2 CROSSING ESH2;
     2EZEN SHESHIG TIMES ASH;5HI;5IGI GUNU;5LA;5LAL;5ME;5MES;5SU;2EZEN/2;2GA2 TIMES BAHAR2;
     4DIM GUNU;4DUG TIMES IGI/1;6KASKAL;4EREN;4GA;4GAR PLUS DI;6NE;4HA PLUS A;4KUSHU2 PLUS KASKAL;
     4LAM;5TIMES KUR;4LUH;4MUSH;4NE;5PLUS E2;6GI;4SHIM;4ZIZ2;2GABA ROTATED NINETY DEGREES;
     2GESHTIN TIMES U;2GISH TIMES GISH CROSSING GISH;2GU2 TIMES IGI GUNU;2GUD PLUS GISH TIMES TAK4;
     2HA TENU GUNU;2HI TIMES ASH OVER HI TIMES ASH;2KA TIMES BU;4KA;4U U U;4UR;
     2LAGAB TIMES ZU OVER ZU;2LAK-003;2LAK-021;2LAK-025;2LAK-030;2LAK-050;+1;2LAK-062;
     2LAK-079 OVER LAK-079 GUNU;2LAK-080;2LAK-081 OVER LAK-081;2LAK-092;2LAK-130;2LAK-142;2LAK-210;
     2LAK-219;+1;2LAK-225;2LAK-228;2LAK-238;2LAK-265;+1;2LAK-343;2LAK-347;+1;2LAK-383;+1;2LAK-390;
     2LAK-441;2LAK-449;3TIMES GU;4IGI;4PAP PLUS LU3;6PAP PLUS/1;4U2 PLUS BA;2LAK-450;2LAK-457;
     2LAK-470;2LAK-483;2LAK-490;2LAK-492;+1;2LAK-495;2LAK-550"),
   (0x12500, "CUNEIFORM SIGN LAK-608;2LAK-617;3TIMES ASH;4BAD;4DUN3 GUNU GUNU;4KU3;4LA;4TAR;4TE;4U2;
     4UD;4URUDA;2LAK-636;2LAK-648;3TIMES DUB;4GA;4IGI;5GUNU;4NI;4PAP PLUS PAP PLUS LU3;
     4SHESH PLUS KI;4UD;4URUDA;2LAK-724;2LAK-749;2LU2 GUNU TIMES ASH;3TIMES DISH;4HAL;4PAP;
     5PLUS PAP PLUS LU3;4TAK4;2MI PLUS ZA7;2MUSH OVER MUSH TIMES GA;6KAK;2NINDA2 TIMES DIM GUNU;
     4GISH;4GUL;4HI;4KESH2;4LAK-050;4MASH;4PAP PLUS PAP;4U;5PLUS U;4URUDA;2SAG GUNU TIMES HA;
     3TIMES EN;4SHE AT LEFT;4TAK4;2SHA6 TENU;2SHE OVER SHE;3PLUS HUB2;4NAM2;4SAR;
     2SHU2 PLUS DUG TIMES NI;4E2 TIMES AN;2SI TIMES TAK4;2TAK4 PLUS SAG;2TUM TIMES GAN2 TENU;
     4THREE DISH;2UR2 INVERTED;3TIMES UD;2URU TIMES DARA3;4LAK-668;4LU3;2ZA7;2ZU OVER ZU PLUS SAR;
     2ZU5 TIMES THREE DISH TENU"),
   (0x12F90, "CYPRO-MINOAN SIGN CM001;+1;2CM004;+8;2CM012B;2CM013;2CM015;2CM017;2CM019;2CM021;
     2CM023;+7;2CM033;+8;2CM044;2CM046;+1;2CM049;+7;2CM058;+6;2CM066;+9;2CM075B;2CM076;2CM078;+14;
     2CM094;+11;2CM107;+3;2CM112;2CM114;2CM301;+1"),
   (0x13000, "EGYPTIAN HIEROGLYPH A001;+4;2A005A;2A006;2A006A;+1;2A007;+7;2A014A;2A015;+2;2A017A;
     2A018;+14;2A032A;2A033;+7;2A040A;2A041;+1;2A042A;2A043;2A043A;2A044;+1;2A045A;2A046;+24;2B001;
     +4;2B005A;2B006;+3;2C001;+1;2C002A;+2;2C003;+7;2C010A;2C011;+13;2D001;+7;2D008A;2D009;+18;
     2D027A;2D028;+3;2D031A;2D032;+2;2D034A;2D035;+11;2D046A;2D047;+1;2D048A;2D049;+1;2D050A;+8;
     2D051;+1;2D052A;2D053;+1;2D054A;2D055;+12;2D067A;+7;2E001;+7;2E008A;2E009;2E009A;2E010;+6;
     2E016A;2E017;2E017A;2E018;+2;2E020A;2E021;+7;2E028A;2E029;+5;2E034A;2E036;+2;2F001;2F001A"),
   (0x13100, "EGYPTIAN HIEROGLYPH F002;+11;2F013A;2F014;+7;2F021A;2F022;+9;2F031A;2F032;+5;2F037A;
     2F038;2F038A;2F039;+6;2F045A;2F046;2F046A;2F047;2F047A;2F048;+3;2F051A;+2;2F052;+1;2G001;+5;
     2G006A;2G007;2G007A;+1;2G008;+3;2G011A;2G012;+8;2G020A;2G021;+5;2G026A;2G027;+9;2G036A;2G037;
     2G037A;2G038;+5;2G043A;2G044;+1;2G045A;2G046;+8;2H001;+5;2H006A;2H007;+1;2I001;+4;2I005A;2I006;
     +3;2I009A;2I010;2I010A;2I011;2I011A;2I012;+3;2K001;+7;2L001;+1;2L002A;2L003;+3;2L006A;2L007;+1;
     2M001;2M001A;+1;2M002;+1;2M003A;2M004;+6;2M010A;2M011;+1;2M012A;+7;2M013;+2;2M015A;2M016;
     2M016A;2M017;2M017A;2M018;+4;2M022A;2M023;+1;2M024A;2M025;+3;2M028A;2M029;+2;2M031A;2M032;+1;
     2M033A;+1;2M034;+6;2M040A;2M041;+3;2N001;+16"),
   (0x13200, "EGYPTIAN HIEROGLYPH N018;2N018A;+1;2N019;+6;2N025A;2N026;+7;2N033A;2N034;2N034A;2N035;
     2N035A;2N036;+1;2N037A;2N038;+4;2NL001;+4;2NL005A;2NL006;+11;2NL017A;2NL018;+2;2NU001;+9;
     2NU010A;2NU011;2NU011A;2NU012;+6;2NU018A;2NU019;+3;2NU022A;2O001;2O001A;2O002;+3;2O005A;2O006;
     2O006A;+5;2O007;+3;2O010A;+2;2O011;+8;2O019A;2O020;2O020A;2O021;+3;2O024A;2O025;2O025A;2O026;
     +3;2O029A;2O030;2O030A;2O031;+2;2O033A;2O034;+2;2O036A;+3;2O037;+13;2O050A;+1;2O051;2P001;
     2P001A;2P002;+1;2P003A;2P004;+7;2Q001;+6;2R001;+1;2R002A;2R003;2R003A;+1;2R004;+6;2R010A;2R011;
     +5;2R016A;2R017;+12;2S001;+1;2S002A;2S003;+3;2S006A;2S007;+7;2S014A;+1;2S015;+2;2S017A;2S018;
     +8;2S026A;+1;2S027;+8;2S035A;2S036;+3"),
   (0x13300, "EGYPTIAN HIEROGLYPH S040;+6;2T001;+2;2T003A;2T004;+3;2T007A;2T008;2T008A;2T009;2T009A;
     2T010;+1;2T011A;2T012;+4;2T016A;2T017;+15;2T032A;2T033;2T033A;2T034;+2;2U001;+5;2U006A;+1;
     2U007;+16;2U023A;2U024;+5;2U029A;2U030;+2;2U032A;2U033;+9;2V001;2V001A;+8;2V002;2V002A;2V003;
     +4;2V007A;+1;2V008;+3;2V011A;+2;2V012;2V012A;+1;2V013;+7;2V020A;+11;2V021;+2;2V023A;2V024;+4;
     2V028A;2V029;2V029A;2V030;2V030A;2V031;2V031A;2V032;+1;2V033A;2V034;+3;2V037A;2V038;+2;2V040A;
     2W001;+2;2W003A;2W004;+5;2W009A;2W010;2W010A;2W011;+3;2W014A;2W015;+2;2W017A;2W018;2W018A;
     2W019;+5;2W024A;2W025;2X001;+3;2X004A;+1;2X005;+1;2X006A;2X007;+1;2X008A;2Y001;2Y001A;2Y002;+6;
     2Z001;+1;2Z002A;+3;2Z003;2Z003A;+1;2Z004;2Z004A;2Z005;2Z005A;2Z006;+9;2Z015A;+4"),
   (0x13400, "EGYPTIAN HIEROGLYPH Z015F;+3;2Z016;2Z016A;+7;2AA001;+6;2AA007A;+1;2AA008;+24"),
   (0x13430, "EGYPTIAN HIEROGLYPH VERTICAL JOINER;2HORIZONTAL/1;2INSERT AT TOP START;4BOTTOM/1;
     4TOP END;4BOTTOM/1;2OVERLAY MIDDLE;2BEGIN SEGMENT;2END/1"),
   (0x14400, "ANATOLIAN HIEROGLYPH A001;+9;2A010A;2A011;+15;2A026A;2A027;+12;2A039A;2A040;+1;2A041A;
     2A042;+3;2A045A;2A046;2A046A;+1;2A047;+19;2A066A;+2;2A067;+30;2A097A;2A098;2A098A;2A099;+1;
     2A100A;2A101;2A101A;2A102;2A102A;2A103;+1;2A104A;+2;2A105;2A105A;+1;2A106;+1;2A107A;+2;2A108;
     +2;2A110A;+1;2A111;+4;2A115A;2A116;+9;2A125A;2A126;+9;2A135A;2A136;+66;2A202A;+1;2A203;+4;
     2A207A;2A208;+1;2A209A;2A210;+5;2A215A;2A216;2A216A;2A217;+5"),
   (0x14500, "ANATOLIAN HIEROGLYPH A223;+4;2A227A;2A228;+39;2A267A;2A268;+21;2A289A;2A290;+4;2A294A;
     2A295;+4;2A299A;2A300;+9;2A309A;2A310;+19;2A329A;2A330;+1;2A332A;+2;2A333;+3;2A336A;+2;2A337;
     +22;2A359A;2A360;+4;2A364A;2A365;+3;2A368A;2A369;+2;2A371A;2A372;+9;2A381A;2A382;
     2A383 RA OR RI;2A383A;2A384;+2;2A386A;2A387;+5;2A393 EIGHT;2A394;+15;2A410 BEGIN LOGOGRAM MARK;
     2A410A END/2;2A411;+39;2A450A;2A451;+6"),
   (0x14600, "ANATOLIAN HIEROGLYPH A457A;2A458;+39;2A501;+29"),
   (0x16800, "BAMUM LETTER PHASE-A NGKUE MFON;3GBIEE FON;3PON MFON PIPAEMGBIEE;5PIPAEMBA;3NAA MFON;
     3SHUENSHUET;3TITA MFON;3NZA/1;3SHINDA PA NJI;3PON PA NJI PIPAEMGBIEE;6PIPAEMBA;3MAEMBGBIEE;
     3TU MAEMBA;3NGANGU;3MAEMVEUX;3MANSUAE;3MVEUAENGAM;3SEUNYAM;3NTOQPEN;3KEUKEUTNDA;3NKINDI;3SUU;
     3NGKUENZEUM;3LAPAQ;3LET KUT;3NTAP MFAA;3MAEKEUP;3PASHAE;3GHEUAERAE;3PAMSHAE;3MON NGGEUAET;
     3NZUN MEUT;3U YUQ NAE;3GHEUAEGHEUAE;3NTAP NTAA;3SISA;3MGBASA;3MEUNJOMNDEUQ;3MOOMPUQ;3KAFA;
     3PA LEERAEWA;3NDA/1;3PET;3MAEMKPEN;3NIKA;3PUP;3TUAEP;3LUAEP;3SONJAM;3TEUTEUWEN;3MAENYI;3KET;
     3NDAANGGEUAET;3KUOQ;3MOOMEUT;3SHUM;3LOMMAE;3FIRI;3ROM;3KPOQ;3SOQ;3MAP PIEET;3SHIRAE;3NTAP;
     3SHOQ NSHUT YUM;3NYIT MONGKEUAEQ;3PAARAE;3NKAARAE;3UNKNOWN;3NGGEN;3MAESI;3NJAM;3MBANYI;3NYET;
     3TEUAEN;3SOT;3PAAM;3NSHIEE;3MAEM;3NYI;3KAQ;3NSHA;3VEE;3LU;3NEN;3NAQ;3MBAQ;2PHASE-B NSHUET;
     3TU MAEMGBIEE;3SIEE;3SET TU;3LOM NTEUM;3MBA MAELEE;3KIEEM;3YEURAE;3MBAARAE;3KAM;3PEESHI;
     3YAFU LEERAEWA;3LAM NSHUT NYAM;3NTIEE SHEUOQ;3NDU NJAA;3GHEUGHEUAEM;3PIT;3TU NSIEE;3SHET NJAQ;
     3SHEUAEQTU;3MFON TEUAEQ;3MBIT MBAAKET;3NYI NTEUM;3KEUPUQ;3GHEUGHEN;3KEUYEUX;3LAANAE;3PARUM;
     3VEUM;3NGKINDI MVOP;3NGGEU MBU;3WUAET;3SAKEUAE;3TAAM;3MEUQ;3NGGUOQ;4LARGE;3MFIYAQ;3SUE;3MBEURI;
     3MONTIEEN;3NYAEMAE;3PUNGAAM;3MEUT NGGEET;3FEUX;3MBUOQ;3FEE;3KEUAEM;3MA NJEUAENA;4NJUQA;3LET;
     3NGGAAM;3NSEN;3MA;3KIQ;3NGOM;2PHASE-C NGKUE MAEMBA;3NZA;3YUM;3WANGKUOQ;3NGGEN;3NDEUAEREE;
     3NGKAQ;3GHARAE;3MBEEKEET;3GBAYI;3NYIR MKPARAQ MEUN;3NTU MBIT;3MBEUM;3PIRIEEN;3NDOMBU;
     3MBAA CABBAGE-TREE;3KEUSHEUAEP;3GHAP;3KEUKAQ;3YU MUOMAE;3NZEUM;3MBUE;3NSEUAEN;3MBIT;3YEUQ;
     3KPARAQ;3KAA;3SEUX;3NDIDA;3TAASHAE;3NJUEQ;3TITA YUE;3SUAET;3NGGUAEN NYAM;3VEUX;3NANSANAQ;
     3MA KEUAERI;3NTAA;3NGGUON;3LAP;3MBIRIEEN;3MGBASAQ;3NTEUNGBA;3TEUTEUX;3NGGUM;3FUE;3NDEUT;3NSA;
     3NSHAQ;3BUNG;3VEUAEPEN;3MBERAE;3RU;3NJAEM;3LAM;3TITUAEP;3NSUOT NGOM;3NJEEEE;3KET;3NGGU;3MAESI;
     3MBUAEM;3LU;3KUT;3NJAM;3NGOM;3WUP;3NGGUEET;3NSOM;3NTEN;3KUOP NKAARAE;3NSUN;3NDAM;3MA NSIEE;
     3YAA;3NDAP;3SHUEQ;3SETFON;3MBI;3MAEMBA;3MBANYI;3KEUSEUX;3MBEUX;3KEUM;3MBAA PICKET;3YUWOQ;
     3NJEUX;3MIEE;3MUAE;3SHIQ;3KEN LAW;4FATIGUE;3NGAQ;3NAQ;3LIQ;3PIN;3PEN;3TET;2PHASE-D MBUO;3WAP;
     3NJI;3MFON;3NJIEE;3LIEE;3NJEUT;3NSHEE;3NGGAAMAE;3NYAM;3WUAEN;3NGKUN;3SHEE;3NGKAP;3KEUAETMEUN"),
   (0x16900, "BAMUM LETTER PHASE-D TEUT;3SHEUAE;3NJAP;3SUE;3KET;3YAEMMAE;3KUOM;3SAP;3MFEUT;3NDEUX;
     3MALEERI;3MEUT;3SEUAEQ;3YEN;3NJEUAEM;3KEUOT MBUAE;3NGKEURI;3TU;3GHAA;3NGKYEE;3FEUFEUAET;3NDEE;
     3MGBOFUM;3LEUAEP;3NDON;3MONI;3MGBEUN;3PUUT;3MGBIEE;3MFO;3LUM;3NSIEEP;3MBAA;3KWAET;3NYET;
     3TEUAEN;3SOT;3YUWOQ;3KEUM;3RAEM;3TEEEE;3NGKEUAEQ;3MFEUAE;3NSIEET;3KEUP;3PIP;3PEUTAE;3NYUE;3LET;
     3NGGAAM;3MFIEE;3NGGWAEN;3YUOM;3PAP;3YUOP;3NDAM;3NTEUM;3SUAE;3KUN;3NGGEUX;3NGKIEE;3TUOT;3MEUN;
     3KUQ;3NSUM;3TEUN;3MAENJET;3NGGAP;3LEUM;3NGGUOM;3NSHUT;3NJUEQ;3GHEUAE;3KU;3REN OLD;3TAE;3TOQ;
     3NYI;3RII;3LEEEE;3MEEEE;3M;3SUU;3MU;3SHII;3SHEUX;3KYEE;3NU;3SHU;3NTEE;3PEE;3NI;3SHOQ;3PUQ;
     3MVOP;3LOQ;3REN MUCH;3TI;3NTUU;3MBAA SEVEN;3SAQ;3FAA;2PHASE-E NDAP;3TOON;3MBEUM;3LAP;3VOM;
     3LOON;3PAA;3SOM;3RAQ;3NSHUOP;3NDUN;3PUAE;3TAM;3NGKA;3KPEUX;3WUO;3SEE;3NGGEUAET;3PAAM;3TOO;
     3KUOP;3LOM;3NSHIEE;3NGOP;3MAEM;3NGKEUX;3NGOQ;3NSHUE;3RIMGBA;3NJEUX;3PEEM;3SAA;3NGGURAE;3MGBA;
     3GHEUX;3NGKEUAEM;3NJAEMLI;3MAP;3LOOT;3NGGEEEE;3NDIQ;3TAEN NTEUM;3SET;3PUM;3NDAA SOFTNESS;
     3NGGUAESHAE NYAM;3YIEE;3GHEUN;3TUAE;3YEUAE;3PO;3TUMAE;3KEUAE;3SUAEN;3TEUAEQ;3VEUAE;3WEUX;3LAAM;
     3PU;3TAAQ;3GHAAMAE;3NGEUREUT;3SHEUAEQ;3MGBEN;3MBEE;3NZAQ;3NKOM;3GBET;3TUM;3KUET;3YAP;
     3NYI CLEAVER;3YIT;3MFEUQ;3NDIAQ;3PIEEQ;3YUEQ;3LEUAEM;3FUE;3GBEUX;3NGKUP;3KET;3MAE;3NGKAAMI;
     3GHET;3FA;3NTUM;3PEUT;3YEUM;3NGGEUAE;3NYI BETWEEN;3NZUQ;3POON;3MIEE;3FUET;3NAE;3MUAE;3GHEUAE;
     3FU I;3MVI;3PUAQ;3NGKUM;3KUT;3PIET;3NTAP;3YEUAET;3NGGUP;3PA PEOPLE;3FU CALL;3FOM;3NJEE;3A;3TOQ;
     3O;3I;3LAQ;3PA PLURAL;3TAA;3TAQ;3NDAA MY HOUSE;3SHIQ;3YEUX;3NGUAE;3YUAEN;3YOQ SWIMMING;4COVER;
     3YUQ;3YUN;3KEUX;3PEUX;3NJEE EPOCH;3PUE;3WUE;3FEE;3VEE;3LU;3MI;3REUX;3RAE;3NGUAET;3NGA;3SHO;
     3SHOQ;3FU REMEDY;3NA;3PI;3LOQ;3KO;3MEN;3MA;3MAQ;3TEU;3KI;3MON"),
   (0x16A00, "BAMUM LETTER PHASE-E TEN;3FAQ;3GHOM;2PHASE-F KA;3U;3KU;3EE;3REE;3TAE;3NYI;3LA;3RII;
     3RIEE;3MEEEE;3TAA;3NDAA;3NJAEM;3M;3SUU;3SHII;3SI;3SEUX;3KYEE;3KET;3NUAE;3NU;3NJUAE;3YOQ;3SHU;
     3YA;3NSHA;3PEUX;3NTEE;3WUE;3PEE;3RU;3NI;3REUX;3KEN;3NGKWAEN;3NGGA;3SHO;3PUAE;3FOM;3WA;3LI;3LOQ;
     3KO;3MBEN;3REN;3MA;3MO;3MBAA;3TET;3KPA;3SAMBA;3VUEQ"),
   (0x16A40, "MRO LETTER TA;2NGI;2YO;2MIM;2BA;2DA;2A;2PHI;2KHAI;2HAO;2DAI;2CHU;2KEAAE;2OL;2MAEM;
     2NIN;2PA;2OO;2O;2RO;2SHI;2THEA;2EA;2WA;2E;2KO;2LAN;2LA;2HAI;2RI;2TEK"),
   (0x16A60, "MRO DIGIT ZERO;2ONE;2TWO;2THREE;2FOUR;2FIVE;2SIX;2SEVEN;2EIGHT;2NINE"),
   (0x16A6E, "MRO DANDA;1DOUBLE/1;TANGSA LETTER OZ;2OC;2OQ;2OX;2AZ;2AC;2AQ;2AX;2VZ;2VC;2VQ;2VX;2EZ;
     2EC;2EQ;2EX;2IZ;2IC;2IQ;2IX;2UZ;2UC;2UQ;2UX;2AWZ;2AWC;2AWQ;2AWX;2UIZ;2UIC;2UIQ;2UIX;2FINAL NG;
     2LONG UEX;2SHORT UEZ;3AWX;2UEC;2UEZ;2UEQ;2UEX;2UIUZ;2UIUC;2UIUQ;2UIUX;2MZ;2MC;2MQ;2MX;2KA;2KHA;
     2GA;2NGA;2SA;2YA;2WA;2PA;2NYA;2PHA;2BA;2MA;2NA;2HA;2LA;2HTA;2TA;2DA;2RA;2NHA;2SHA;2CA;2TSA;
     2GHA;2HTTA;2THA;2XA;2FA;2DHA;2CHA;2ZA"),
   (0x16AC0, "TANGSA DIGIT ZERO;2ONE;2TWO;2THREE;2FOUR;2FIVE;2SIX;2SEVEN;2EIGHT;2NINE"),
   (0x16AD0, "BASSA VAH LETTER ENNI;3KA;3SE;3FA;3MBE;3YIE;3GAH;3DHII;3KPAH;3JO;3HWAH;3WA;3ZO;3GBU;
     3DO;3CE;3UWU;3TO;3BA;3VU;3YEIN;3PA;3WADDA;3A;3O;3OO;3U;3EE;3E;3I"),
   (0x16AF0, "BASSA VAH COMBINING HIGH TONE;3LOW/1;3MID/1;3LOW-MID/1;3HIGH-LOW/1;2FULL STOP"),
   (0x16B00, "PAHAWH HMONG VOWEL KEEB;3KEEV;3KIB;3KIV;3KAUB;3KAUV;3KUB;3KUV;3KEB;3KEV;3KAIB;3KAIV;
     3KOOB;3KOOV;3KAWB;3KAWV;3KUAB;3KUAV;3KOB;3KOV;3KIAB;3KIAV;3KAB;3KAV;3KWB;3KWV;3KAAB;3KAAV;
     2CONSONANT VAU;3NTSAU;3LAU;3HAU;3NLAU;3RAU;3NKAU;3QHAU;3YAU;3HLAU;3MAU;3CHAU;3NCHAU;3HNAU;
     3PLHAU;3NTHAU;3NAU;3AU;3XAU;3CAU;2MARK CIM TUB;4SO;4KES;4KHAV;4SUAM;4HOM;4TAUM;2SIGN VOS THOM;
     4TSHAB CEEB;3CIM CHEEM;3VOS THIAB;4FEEM;3XYEEM NTXIV;4RHO;4TOV;4FAIB;3VOS SEEV;3MEEJ SUAB;
     3VOS NRUA;3IB YAM;3XAUS;3CIM TSOV ROG"),
   (0x16B50, "PAHAWH HMONG DIGIT ZERO;3ONE;3TWO;3THREE;3FOUR;3FIVE;3SIX;3SEVEN;3EIGHT;3NINE"),
   (0x16B5B, "PAHAWH HMONG NUMBER TENS;3HUNDREDS;3TEN THOUSANDS;3MILLIONS;3HUNDRED/1;3TEN BILLIONS;
     3TRILLIONS"),
   (0x16B63, "PAHAWH HMONG SIGN VOS LUB;3XYOO;3HLI;3THIRD-STAGE/1;3ZWJ THAJ;3HNUB;3NQIG;3XIAB;3NTUJ;
     3AV;3TXHEEJ CEEV;3MEEJ TSEEB;3TAU;3LOS;3MUS;3CIM HAIS LUS NTOG NTOG;4CUAM TSHOOJ;4TXWV;5CHWV;
     4PUB DAWB;4NRES TOS"),
   (0x16B7D, "PAHAWH HMONG CLAN SIGN TSHEEJ;4YEEG;4LIS;4LAUJ;4XYOOJ;4KOO;4HAWJ;4MUAS;4THOJ;4TSAB;
     4PHAB;4KHAB;4HAM;4VAJ;4FAJ;4YAJ;4TSWB;4KWM;4VWJ"),
   (0x16E40, "MEDEFAIDRIN CAPITAL LETTER M;3S;3V;+1;3ATIU;3Z;3KP;3P;3T;3G;3F;3I;3K;3A;3J;3E;3B;+1;
     3U;3YU;3L;3Q;3HP;3NY;3X;3D;3OE;3N;3R;3O;3AI;3Y;1SMALL LETTER M;3S;3V;+1;3ATIU;3Z;3KP;3P;3T;3G;
     3F;3I;3K;3A;3J;3E;3B;+1;3U;3YU;3L;3Q;3HP;3NY;3X;3D;3OE;3N;3R;3O;3AI;3Y;1DIGIT ZERO;2ONE;2TWO;
     2THREE;2FOUR;2FIVE;2SIX;2SEVEN;2EIGHT;2NINE;1NUMBER TEN;2ELEVEN;2TWELVE;2THIRTEEN;2FOURTEEN;
     2FIFTEEN;2SIXTEEN;2SEVENTEEN;2EIGHTEEN;2NINETEEN;1DIGIT ONE ALTERNATE FORM;2TWO/2;2THREE/2;
     1COMMA;1FULL STOP;1SYMBOL AIVA;1EXCLAMATION OH"),
   (0x16F00, "MIAO LETTER PA;2BA;2YI PA;2PLA;2MA;2MHA;2ARCHAIC MA;2FA;2VA;2VFA;2TA;2DA;2YI TTA;3TA;
     2TTA;2DDA;2NA;2NHA;2YI NNA;2ARCHAIC NA;2NNA;2NNHA;2LA;2LYA;2LHA;2LHYA;2TLHA;2DLHA;2TLHYA;
     2DLHYA;2KA;2GA;2YI KA;2QA;2QGA;2NGA;2NGHA;2ARCHAIC NGA;2HA;2XA;2GHA;2GHHA;2TSSA;2DZZA;2NYA;
     2NYHA;2TSHA;2DZHA;2YI TSHA;3DZHA;2REFORMED TSHA;2SHA;2SSA;2ZHA;2ZSHA;2TSA;2DZA;2YI TSA;2SA;2ZA;
     2ZSA;2ZZA;2ZZSA;2ARCHAIC ZZA;2ZZYA;2ZZSYA;2WA;2AH;2HHA;2BRI;2SYI;2DZYI;2TE;2TSE;2RTE"),
   (0x16F4F, "MIAO SIGN CONSONANT MODIFIER BAR;1LETTER NASALIZATION;1SIGN ASPIRATION;
     2REFORMED VOICING;3ASPIRATION;1VOWEL SIGN A;3AA;3AHH;3AN;3ANG;3O;3OO;3WO;3W;3E;3EN;3ENG;3OEY;
     3I;3IA;3IAN;3IANG;3IO;3IE;3II;3IU;3ING;3U;3UA;3UAN;3UANG;3UU;3UEI;3UNG;3Y;3YI;3AE;3AEE;3ERR;
     3ROUNDED/1;3ER;3ROUNDED/1;3AI;3EI;3AU;3OU;3N;3NG;3UOG;3YUI;3OG;3OER;3VW;3IG;3EA;3IONG;3UI"),
   (0x16F8F, "MIAO TONE RIGHT;2TOP/1;2ABOVE;2BELOW;1LETTER TONE-2;+6;2REFORMED TONE-1;+1;3TONE-4;+2;
     3TONE-8"),
   (0x16FE0, "TANGUT ITERATION MARK;NUSHU/2;OLD CHINESE HOOK/1;2ITERATION/1;
     KHITAN SMALL SCRIPT FILLER"),
   (0x16FF0, "VIETNAMESE ALTERNATE READING MARK CA;4NHAY"),
   (0x18800, "TANGUT COMPONENT-001;+255"),
   (0x18900, "TANGUT COMPONENT-257;+255"),
   (0x18A00, "TANGUT COMPONENT-513;+255"),
   (0x1AFF0, "KATAKANA LETTER MINNAN TONE-2;+3"),
   (0x1AFF5, "KATAKANA LETTER MINNAN TONE-7;+1;3NASALIZED TONE-1;+4"),
   (0x1AFFD, "KATAKANA LETTER MINNAN NASALIZED TONE-7;+1"),
   (0x1B000, "KATAKANA LETTER ARCHAIC E;HIRAGANA LETTER ARCHAIC YE;HENTAIGANA LETTER A-1;+2;2A-WO;
     2I-1;+3;2U-1;+4;2E-2;+4;2O-1;+2;2KA-1;+10;2KA-KE;2KI-1;+7;2KU-1;+6;2KE-1;+5;2KO-1;+2;2KO-KI;
     2SA-1;+7;2SI-1;+5;2SU-1;+7;2SE-1;+4;2SO-1;+6;2TA-1;+3;2TI-1;+6;2TU-1;+3;2TU-TO;2TE-1;+8;2TO-1;
     +5;2TO-RA;2NA-1;+8;2NI-1;+6;2NI-TE;2NU-1;+2;2NE-1;+5;2NE-KO;2NO-1;+4;2HA-1;+10;2HI-1;+6;2HU-1;
     +2;2HE-1;+6;2HO-1;+7;2MA-1;+6;2MI-1;+6;2MU-1;+3;2ME-1;+1;2ME-MA;2MO-1;+5;2YA-1;+4;2YA-YO;2YU-1;
     +3;2YO-1;+5;2RA-1;+3;2RI-1;+6;2RU-1;+5;2RE-1;+1"),
   (0x1B100, "HENTAIGANA LETTER RE-3;+1;2RO-1;+5;2WA-1;+4;2WI-1;+4;2WE-1;+3;2WO-1;+6;2N-MU-MO-1;+1;
     HIRAGANA LETTER ARCHAIC WU;KATAKANA LETTER ARCHAIC YI;3YE;3WU"),
   (0x1B150, "HIRAGANA LETTER SMALL WI;3WE;3WO"),
   (0x1B164, "KATAKANA LETTER SMALL WI;3WE;3WO;3N"),
   (0x1BC00, "DUPLOYAN LETTER H;2X;2P;2T;2F;2K;+1;2B;2D;2V;2G;2R;2P N;2D S;2F N;2K M;2R S;2TH;
     2SLOAN DH;2DH;2KK;2SLOAN J;2HL;2LH;2RH;2M;+1;2J;2S;2M N;2N M;2J M;2S J;2M WITH DOT;2N/2;2J/2;
     4DOTS INSIDE AND ABOVE;2S WITH DOT;5BELOW;2M S;2N S;2J S;2S S;2M N S;2N M S;2J/2;2S J S;
     2J S WITH DOT;3N;4S;2S T;4R;3P;4R;2T S;3R S;2W;2WH;2W R;2S N;3M;2K R S;2G/2;2S K;4R;2A;
     2SLOAN OW;2OA;2O;2AOU;2I;2E;2IE;2SHORT I;2UI;2EE;2SLOAN EH;2ROMANIAN I;2SLOAN EE;2LONG I;2YE;
     2U;2EU;2XW;2U N;2LONG U;2ROMANIAN U;2UH;2SLOAN U;2OOH;2OW;2OU;2WA;2WO;2WI;2WEI;2WOW;2NASAL U;
     3O;3I;3A;2PERNIN AN;3AM;2SLOAN EN;3AN;3ON;2VOCALIC M"),
   (0x1BC70, "DUPLOYAN AFFIX LEFT HORIZONTAL SECANT;2MID/2;2RIGHT/2;2LOW VERTICAL/1;2MID/2;2HIGH/2;
     2ATTACHED/1;3LEFT-TO-RIGHT/1;3TANGENT;3TAIL;3E HOOK;3I/1;3TANGENT/1"),
   (0x1BC80, "DUPLOYAN AFFIX HIGH ACUTE;3TIGHT/1;3GRAVE;3LONG/1;3DOT;3CIRCLE;3LINE;3WAVE;
     3VERTICAL"),
   (0x1BC90, "DUPLOYAN AFFIX LOW ACUTE;3TIGHT/1;3GRAVE;3LONG/1;3DOT;3CIRCLE;3LINE;3WAVE;3VERTICAL;
     3ARROW"),
   (0x1BC9C, "DUPLOYAN SIGN O WITH CROSS;1THICK LETTER SELECTOR;1DOUBLE MARK;
     1PUNCTUATION CHINOOK FULL STOP;SHORTHAND FORMAT LETTER OVERLAP;2CONTINUING/1;2DOWN STEP;
     2UP/1"),
   (0x1CF00, "ZNAMENNY COMBINING MARK GORAZDO NIZKO S KRYZHEM ON LEFT;2MARK/5;3TSATA/2;
     3GORAZDO NIZKO/2;2MARK/3;3SREDNE/2;3MALO POVYSHE/2;2MARK/3;3VYSOKO/2;
     3MALO POVYSHE S KHOKHLOM/2;2MARK/5;3VYSOKO/4;3GORAZDO NIZKO S KRYZHEM ON RIGHT;2MARK/5;
     3TSATA/2;3GORAZDO NIZKO/2;2MARK/3;3SREDNE/2;3MALO POVYSHE/2;2MARK/3;3VYSOKO/2;
     3MALO POVYSHE S KHOKHLOM/2;2MARK/5;3VYSOKO/4;3TSATA S KRYZHEM;3MALO POVYSHE/2;
     3STRANNO MALO POVYSHE;3POVYSHE S KRYZHEM;4STRANNO;3VYSOKO S KRYZHEM;3MALO POVYSHE STRANNO;
     3GORAZDO VYSOKO;3ZELO;3ON;3RAVNO;3TIKHAYA;3BORZAYA;3UDARKA;3PODVERTKA;3LOMKA;3KUPNAYA;3KACHKA;
     3ZEVOK;3SKOBA;3RAZSEKA;3KRYZH ON LEFT"),
   (0x1CF30, "ZNAMENNY COMBINING TONAL RANGE MARK MRACHNO;5SVETLO;5TRESVETLO;2MARK ZADERZHKA;
     3DEMESTVENNY/1;3OTSECHKA;3PODCHASHIE;4WITH VERTICAL STROKE;3CHASHKA;4POLNAYA;3OBLACHKO;
     3SOROCHYA NOZHKA;3TOCHKA;3DVOETOCHIE;2ATTACHING VERTICAL OMET;2MARK CURVED/1;3KRYZH;
     2LOWER TONAL RANGE INDICATOR;1PRIZNAK MODIFIER LEVEL-2;+1;3DIRECTION FLIP;3KRYZH;3ROG"),
   (0x1CF50, "ZNAMENNY NEUME KRYUK;3TIKHY;2PARAKLIT;2DVA V CHELNU;2KLYUCH;2ZANOZHEK;2STOPITSA;
     3S OCHKOM;2PEREVODKA;3NEPOSTOYANNAYA;2STOPITSA WITH SOROCHYA NOZHKA;2CHELYUSTKA;2PALKA;
     2ZAPYATAYA;2GOLUBCHIK BORZY;3TIKHY;3MRACHNY;3SVETLY;3TRESVETLY;2VRAKHIYA PROSTAYA;3MRACHNAYA;
     3SVETLAYA;3TRESVETLAYA;3KLYUCHEVAYA PROSTAYA;4MRACHNAYA;4SVETLAYA;4TRESVETLAYA;
     2DOUBLE ZAPYATAYA;2REVERSED CHELYUSTKA;2DERBITSA;2KHAMILO;2CHASHKA;2PODCHASHIE;
     2SKAMEYTSA MRACHNAYA;3SVETLAYA;3TRESVETLAYA;3TIKHAYA;2DEMESTVENNY KLYUCH;
     2SKAMEYTSA KLYUCHEVAYA SVETLAYA;3KLYUCHENEPOSTOYANNAYA;3KLYUCHEVAYA TIKHAYA;
     3DVOECHELNAYA PROSTAYA;4SVETLAYA;4NEPOSTOYANNAYA;4KLYUCHEVAYA;2SLOZHITIE;3S ZAPYATOY;3ZAKRYTOE;
     3S KRYZHEM;2KRYZH;2ROG;2FITA;2KOBYLA;2ZMEYTSA;2STATYA;3S ZAPYATOY;4KRYZHEM;4ZAPYATOY I/1;
     4KRYZHEM I ZAPYATOY;3ZAKRYTAYA;4S ZAPYATOY;3S ROGOM;4DVUMYA ZAPYATYMI;4ZAPYATOY I PODCHASHIEM;
     2POLKULIZMY;2STATYA NEPOSTOYANNAYA;2STRELA PROSTAYA;3MRACHNOTIKHAYA;3KRYZHEVAYA;3POLUPOVODNAYA;
     3POVODNAYA;3NEPOSTOYANNAYA;3KLYUCHEPOVODNAYA;3KLYUCHENEPOSTOYANNAYA;3TIKHAYA PUTNAYA;
     3DVOECHELNAYA;3DVOECHELNOKRYZHEVAYA;3DVOECHELNOPOVODNAYA;3DVOECHELNAYA KLYUCHEVAYA;
     3DVOECHELNOPOVODNAYA/1;3GROMNAYA WITH SINGLE ZAPYATAYA;3GROMOPOVODNAYA/3;3GROMNAYA;
     3GROMOPOVODNAYA;4WITH DOUBLE ZAPYATAYA;3GROMOKRYZHEVAYA;4POVODNAYA;2MECHIK;3POVODNY;
     3KLYUCHEVOY;3KLYUCHEPOVODNY;3KLYUCHENEPOSTOYANNY;2STRELA TRYASOGLASNAYA;3TRYASOPOVODNAYA;
     3TRYASOSTRELNAYA;2OSOKA;3SVETLAYA;3TRESVETLAYA;3KRYUKOVAYA SVETLAYA;3KLYUCHEVAYA/1;
     4NEPOSTOYANNAYA;2STRELA KRYUKOVAYA;4POVODNAYA;4GROMNAYA WITH SINGLE ZAPYATAYA;
     4GROMOPOVODNAYA/3;4GROMNAYA;4GROMOPOVODNAYA;5WITH DOUBLE ZAPYATAYA;4GROMOKRYZHEVAYA;5POVODNAYA;
     4TRYASKA;2KUFISMA;2OBLAKO;2DUDA;2NEMKA;2PAUK"),
   (0x1D000, "BYZANTINE MUSICAL SYMBOL PSILI;3DASEIA;3PERISPOMENI;3OXEIA EKFONITIKON;4DIPLI;
     3VAREIA EKFONITIKON;4DIPLI;3KATHISTI;3SYRMATIKI;3PARAKLITIKI;3YPOKRISIS;4DIPLI;3KREMASTI;
     3APESO EKFONITIKON;3EXO/1;3TELEIA;3KENTIMATA;3APOSTROFOS;4DIPLI;3SYNEVMA;3THITA;
     3OLIGON ARCHAION;3GORGON/1;3PSILON;3CHAMILON;3VATHY;3ISON ARCHAION;3KENTIMA/1;3KENTIMATA/1;
     3SAXIMATA;3PARICHON;3STAVROS APODEXIA;3OXEIAI ARCHAION;3VAREIAI/1;3APODERMA/1;3APOTHEMA;
     3KLASMA;3REVMA;3PIASMA ARCHAION;3TINAGMA;3ANATRICHISMA;3SEISMA;3SYNAGMA ARCHAION;4META STAVROU;
     3OYRANISMA ARCHAION;3THEMA;3LEMOI;3DYO;3TRIA;3TESSERA;3KRATIMATA;3APESO EXO NEO;
     3FTHORA ARCHAION;3IMIFTHORA;3TROMIKON ARCHAION;3KATAVA TROMIKON;3PELASTON;3PSIFISTON;3KONTEVMA;
     3CHOREVMA ARCHAION;3RAPISMA;3PARAKALESMA ARCHAION;3PARAKLITIKI/1;3ICHADIN;3NANA;3PETASMA;
     3KONTEVMA ALLO;3TROMIKON/1;3STRAGGISMATA;3GRONTHISMATA;3ISON NEO;3OLIGON/1;3OXEIA/1;3PETASTI;
     3KOUFISMA;3PETASTOKOUFISMA;3KRATIMOKOUFISMA;3PELASTON NEO;3KENTIMATA NEO ANO;3KENTIMA/2;
     3YPSILI;3APOSTROFOS NEO;3APOSTROFOI SYNDESMOS/1;3YPORROI;3KRATIMOYPORROON;3ELAFRON;3CHAMILI;
     3MIKRON ISON;3VAREIA NEO;3PIASMA/1;3PSIFISTON/1;3OMALON;3ANTIKENOMA;3LYGISMA;3PARAKLITIKI NEO;
     3PARAKALESMA/1;3ETERON PARAKALESMA;3KYLISMA;3ANTIKENOKYLISMA;3TROMIKON NEO;3EKSTREPTON;
     3SYNAGMA NEO;3SYRMA;3CHOREVMA NEO;3EPEGERMA;3SEISMA NEO;3XIRON KLASMA;3TROMIKOPSIFISTON;
     3PSIFISTOLYGISMA;3TROMIKOLYGISMA;3TROMIKOPARAKALESMA;3PSIFISTOPARAKALESMA;3TROMIKOSYNAGMA;
     3PSIFISTOSYNAGMA;3GORGOSYNTHETON;3ARGOSYNTHETON;3ETERON/1;3OYRANISMA NEO;3THEMATISMOS ESO;4EXO;
     3THEMA APLOUN;3THES KAI APOTHES;3KATAVASMA;3ENDOFONON;3YFEN KATO;4ANO;3STAVROS;3KLASMA ANO;
     3DIPLI ARCHAION;3KRATIMA/1;4ALLO;4NEO;3APODERMA/1;3APLI;3DIPLI;3TRIPLI;3TETRAPLI;3KORONIS;
     3LEIMMA ENOS CHRONOU;4DYO CHRONON;4TRION/1;4TESSARON/1;4IMISEOS CHRONOU;3GORGON NEO ANO;
     4PARESTIGMENON ARISTERA;5DEXIA;3DIGORGON;4PARESTIGMENON ARISTERA KATO;6ANO;5DEXIA;3TRIGORGON;
     3ARGON;3IMIDIARGON;3DIARGON;3AGOGI POLI ARGI;4ARGOTERI;4ARGI;4METRIA;4MESI;4GORGI;4GORGOTERI;
     4POLI GORGI;3MARTYRIA PROTOS ICHOS;4ALLI/2;4DEYTEROS/1;4ALLI/2;4TRITOS/1;4TRIFONIAS;
     4TETARTOS ICHOS;5LEGETOS/1;4LEGETOS/1;4PLAGIOS/1;3ISAKIA TELOUS ICHIMATOS;3APOSTROFOI/2;
     3FANEROSIS TETRAFONIAS;4MONOFONIAS;4DIFONIAS;3MARTYRIA VARYS ICHOS;4PROTOVARYS/1;
     4PLAGIOS TETARTOS/1;3GORTHMIKON N APLOUN;5DIPLOUN;3ENARXIS KAI FTHORA VOU;3IMIFONON;
     3IMIFTHORON;3FTHORA ARCHAION DEYTEROU ICHOU;4DIATONIKI PA;5NANA;4NAOS ICHOS;4DIATONIKI DI;
     4SKLIRON DIATONON/1;4DIATONIKI KE;5ZO;5NI KATO;6ANO;4MALAKON CHROMA DIFONIAS;6MONOFONIAS;
     3FHTORA SKLIRON CHROMA VASIS;3FTHORA SKLIRON CHROMA SYNAFI;4NENANO;3CHROA ZYGOS;4KLITON;
     4SPATHI;3FTHORA I YFESIS TETARTIMORION;4ENARMONIOS ANTIFONIA;3YFESIS TRITIMORION;3DIESIS/1;
     4TETARTIMORION;4APLI DYO DODEKATA;4MONOGRAMMOS TESSERA/1;4DIGRAMMOS EX/1;4TRIGRAMMOS OKTO/1;
     3YFESIS APLI DYO/1;4MONOGRAMMOS TESSERA/1;4DIGRAMMOS EX/1;4TRIGRAMMOS OKTO/1;3GENIKI DIESIS;
     4YFESIS;3DIASTOLI APLI MIKRI;5MEGALI;4DIPLI;4THESEOS;3SIMANSIS/1;5DISIMOU;5TRISIMOU;
     5TETRASIMOU;4ARSEOS;5DISIMOU;5TRISIMOU;5TETRASIMOU;3DIGRAMMA GG;3DIFTOGGOS OU;3STIGMA;
     3ARKTIKO PA;4VOU;4GA;4DI;4KE;4ZO;4NI;3KENTIMATA NEO MESO;3KENTIMA/2;3KENTIMATA NEO KATO;
     3KENTIMA/2;3KLASMA/1;3GORGON NEO/1"),
   (0x1D100, "MUSICAL SYMBOL SINGLE BARLINE;2DOUBLE/1;2FINAL/1;2REVERSE/2;2DASHED/1;2SHORT/1;
     2LEFT REPEAT SIGN;2RIGHT/2;2REPEAT DOTS;2DAL SEGNO;2DA CAPO;2SEGNO;2CODA;2REPEATED FIGURE-1;+2;
     2FERMATA;3BELOW;2BREATH MARK;2CAESURA;2BRACE;2BRACKET;2ONE-LINE STAFF;2TWO-LINE/1;
     2THREE-LINE/1;2FOUR-LINE/1;2FIVE-LINE/1;2SIX-LINE/1;2SIX-STRING FRETBOARD;2FOUR-STRING/1;
     2G CLEF;4OTTAVA ALTA;5BASSA;2C CLEF;2F/1;4OTTAVA ALTA;5BASSA;2DRUM CLEF-1;+1"),
   (0x1D129, "MUSICAL SYMBOL MULTIPLE MEASURE REST;2DOUBLE SHARP;3FLAT;2FLAT UP;3DOWN;2NATURAL UP;
     3DOWN;2SHARP UP;3DOWN;2QUARTER TONE SHARP;4FLAT;2COMMON TIME;2CUT/1;2OTTAVA ALTA;3BASSA;
     2QUINDICESIMA ALTA;3BASSA;2MULTI REST;2WHOLE/1;2HALF/1;2QUARTER/1;2EIGHTH/1;2SIXTEENTH/1;
     2THIRTY-SECOND/1;2SIXTY-FOURTH/1;2ONE HUNDRED TWENTY-EIGHTH/1;2X NOTEHEAD;2PLUS/1;2CIRCLE X/1;
     2SQUARE NOTEHEAD WHITE;4BLACK;2TRIANGLE NOTEHEAD UP WHITE;5BLACK;4LEFT WHITE;5BLACK;
     4RIGHT WHITE;5BLACK;4DOWN WHITE;5BLACK;4UP RIGHT WHITE;6BLACK;2MOON NOTEHEAD WHITE;4BLACK;
     2TRIANGLE-ROUND NOTEHEAD DOWN WHITE;5BLACK;2PARENTHESIS NOTEHEAD;2VOID/1;2NOTEHEAD BLACK;
     2NULL NOTEHEAD;2CLUSTER NOTEHEAD WHITE;4BLACK;2BREVE;2WHOLE NOTE;2HALF/1;2QUARTER/1;2EIGHTH/1;
     2SIXTEENTH/1;2THIRTY-SECOND/1;2SIXTY-FOURTH/1;2ONE HUNDRED TWENTY-EIGHTH/1;2COMBINING STEM;
     3SPRECHGESANG/1;3TREMOLO-1;+2;2FINGERED TREMOLO-1;+2;2COMBINING AUGMENTATION DOT;3FLAG-1;+4;
     2BEGIN BEAM;2END/1;2BEGIN TIE;2END/1;2BEGIN SLUR;2END/1;2BEGIN PHRASE;2END/1;2COMBINING ACCENT;
     3STACCATO;3TENUTO;3STACCATISSIMO;3MARCATO;3MARCATO-STACCATO;3ACCENT-STACCATO;3LOURE;
     2ARPEGGIATO UP;3DOWN;2COMBINING DOIT;3RIP;3FLIP;3SMEAR;3BEND;3DOUBLE TONGUE;3TRIPLE/1;
     2RINFORZANDO;2SUBITO;2Z;2PIANO;2MEZZO;2FORTE;2CRESCENDO;2DECRESCENDO;2GRACE NOTE SLASH;4NO/1;
     2TR;2TURN;2INVERTED/1;2TURN SLASH;3UP;2ORNAMENT STROKE-1;+10;2HAUPTSTIMME;2NEBENSTIMME;
     2END OF STIMME;2DEGREE SLASH;2COMBINING DOWN BOW;3UP/1;3HARMONIC;3SNAP PIZZICATO;2PEDAL MARK;
     3UP/1;2HALF PEDAL/1;2GLISSANDO UP;3DOWN;2WITH FINGERNAILS;2DAMP;3ALL;2MAXIMA;2LONGA;2BREVIS;
     2SEMIBREVIS WHITE;3BLACK;2MINIMA;3BLACK;2SEMIMINIMA WHITE;3BLACK;2FUSA WHITE;3BLACK;
     2LONGA PERFECTA REST;3IMPERFECTA/1;2BREVIS/1;2SEMIBREVIS/1;2MINIMA/1;2SEMIMINIMA/1;
     2TEMPUS PERFECTUM CUM PROLATIONE PERFECTA;6IMPERFECTA;6PERFECTA DIMINUTION-1;
     3IMPERFECTUM CUM PROLATIONE PERFECTA;6IMPERFECTA;7DIMINUTION-1;+2;2CROIX;2GREGORIAN C CLEF;
     3F/1;2SQUARE B;2VIRGA;2PODATUS;2CLIVIS;2SCANDICUS;2CLIMACUS;2TORCULUS;2PORRECTUS;3FLEXUS;
     2SCANDICUS/1;2TORCULUS RESUPINUS;2PES SUBPUNCTIS;2KIEVAN C CLEF;3END OF PIECE;3FINAL NOTE;
     3RECITATIVE MARK;3WHOLE NOTE;3HALF/1;3QUARTER NOTE STEM DOWN;6UP;3EIGHTH NOTE STEM DOWN;6UP;
     3FLAT SIGN;2SORI;2KORON"),
   (0x1D200, "GREEK VOCAL NOTATION SYMBOL-1;+23;3SYMBOL-50;+4;1INSTRUMENTAL NOTATION SYMBOL-1;+1;
     3SYMBOL-4;+1;3SYMBOL-7;+1;3SYMBOL-11;+3;3SYMBOL-17;+2;3SYMBOL-23;+4;3SYMBOL-29;+1;3SYMBOL-32;
     3SYMBOL-36;+4;3SYMBOL-42;+1;3SYMBOL-45;3SYMBOL-47;+7;COMBINING GREEK MUSICAL TRISEME;
     3TETRASEME;3PENTASEME;GREEK MUSICAL LEIMMA"),
   (0x1D2E0, "MAYAN NUMERAL ZERO;2ONE;2TWO;2THREE;2FOUR;2FIVE;2SIX;2SEVEN;2EIGHT;2NINE;2TEN;2ELEVEN;
     2TWELVE;2THIRTEEN;2FOURTEEN;2FIFTEEN;2SIXTEEN;2SEVENTEEN;2EIGHTEEN;2NINETEEN"),
   (0x1D300, "MONOGRAM FOR EARTH;DIGRAM FOR HEAVENLY/1;2HUMAN/1;2EARTHLY HEAVEN;3HUMAN;2EARTH;
     TETRAGRAM FOR CENTRE;2FULL CIRCLE;2MIRED;2BARRIER;2KEEPING SMALL;2CONTRARIETY;2ASCENT;
     2OPPOSITION;2BRANCHING OUT;2DEFECTIVENESS OR DISTORTION;2DIVERGENCE;2YOUTHFULNESS;2INCREASE;
     2PENETRATION;2REACH;2CONTACT;2HOLDING BACK;2WAITING;2FOLLOWING;2ADVANCE;2RELEASE;2RESISTANCE;
     2EASE;2JOY;2CONTENTION;2ENDEAVOUR;2DUTIES;2CHANGE;2DECISIVENESS;2BOLD RESOLUTION;2PACKING;
     2LEGION;2CLOSENESS;2KINSHIP;2GATHERING;2STRENGTH;2PURITY;2FULLNESS;2RESIDENCE;2LAW OR MODEL;
     2RESPONSE;2GOING TO MEET;2ENCOUNTERS;2STOVE;2GREATNESS;2ENLARGEMENT;2PATTERN;2RITUAL;2FLIGHT;
     2VASTNESS OR WASTING;2CONSTANCY;2MEASURE;2ETERNITY;2UNITY;2DIMINISHMENT;2CLOSED MOUTH;
     2GUARDEDNESS;2GATHERING IN;2MASSING;2ACCUMULATION;2EMBELLISHMENT;2DOUBT;2WATCH;2SINKING;2INNER;
     2DEPARTURE;2DARKENING;2DIMMING;2EXHAUSTION;2SEVERANCE;2STOPPAGE;2HARDNESS;2COMPLETION;2CLOSURE;
     2FAILURE;2AGGRAVATION;2COMPLIANCE;2ON THE VERGE;2DIFFICULTIES;2LABOURING;2FOSTERING"),
   (0x1D360, "COUNTING ROD UNIT DIGIT ONE;4TWO;4THREE;4FOUR;4FIVE;4SIX;4SEVEN;4EIGHT;4NINE;
     2TENS DIGIT ONE;4TWO;4THREE;4FOUR;4FIVE;4SIX;4SEVEN;4EIGHT;4NINE;IDEOGRAPHIC TALLY MARK ONE;
     3TWO;3THREE;3FOUR;3FIVE;TALLY MARK ONE;2FIVE"),
   (0x1D400, "MATHEMATICAL BOLD CAPITAL A;+25;2SMALL A;+25;1ITALIC CAPITAL A;+25;2SMALL A;+6"),
   (0x1D456, "MATHEMATICAL ITALIC SMALL I;+17;1BOLD ITALIC CAPITAL A;+25;3SMALL A;+25;
     1SCRIPT CAPITAL A"),
   (0x1D49E, "MATHEMATICAL SCRIPT CAPITAL C;+1"),
   (0x1D4A2, "MATHEMATICAL SCRIPT CAPITAL G"),
   (0x1D4A5, "MATHEMATICAL SCRIPT CAPITAL J;+1"),
   (0x1D4A9, "MATHEMATICAL SCRIPT CAPITAL N;+3"),
   (0x1D4AE, "MATHEMATICAL SCRIPT CAPITAL S;+7;2SMALL A;+3"),
   (0x1D4BB, "MATHEMATICAL SCRIPT SMALL F"),
   (0x1D4BD, "MATHEMATICAL SCRIPT SMALL H;+6"),
   (0x1D4C5, "MATHEMATICAL SCRIPT SMALL P;+10;1BOLD SCRIPT CAPITAL A;+25;3SMALL A;+21"),
   (0x1D500, "MATHEMATICAL BOLD SCRIPT SMALL W;+3;1FRAKTUR CAPITAL A;+1"),
   (0x1D507, "MATHEMATICAL FRAKTUR CAPITAL D;+3"),
   (0x1D50D, "MATHEMATICAL FRAKTUR CAPITAL J;+7"),
   (0x1D516, "MATHEMATICAL FRAKTUR CAPITAL S;+6"),
   (0x1D51E, "MATHEMATICAL FRAKTUR SMALL A;+25;1DOUBLE-STRUCK CAPITAL A;+1"),
   (0x1D53B, "MATHEMATICAL DOUBLE-STRUCK CAPITAL D;+3"),
   (0x1D540, "MATHEMATICAL DOUBLE-STRUCK CAPITAL I;+4"),
   (0x1D546, "MATHEMATICAL DOUBLE-STRUCK CAPITAL O"),
   (0x1D54A, "MATHEMATICAL DOUBLE-STRUCK CAPITAL S;+6"),
   (0x1D552, "MATHEMATICAL DOUBLE-STRUCK SMALL A;+25;1BOLD FRAKTUR CAPITAL A;+25;3SMALL A;+25;
     1SANS-SERIF CAPITAL A;+25;2SMALL A;+25;2BOLD CAPITAL A;+25;3SMALL A;+17"),
   (0x1D600, "MATHEMATICAL SANS-SERIF BOLD SMALL S;+7;2ITALIC CAPITAL A;+25;3SMALL A;+25;
     2BOLD ITALIC CAPITAL A;+25;4SMALL A;+25;1MONOSPACE CAPITAL A;+25;2SMALL A;+25;
     1ITALIC SMALL DOTLESS I;+1"),
   (0x1D6A8, "MATHEMATICAL BOLD CAPITAL ALPHA;3BETA;3GAMMA;3DELTA;3EPSILON;3ZETA;3ETA;3THETA;3IOTA;
     3KAPPA;3LAMDA;3MU;3NU;3XI;3OMICRON;3PI;3RHO;3THETA SYMBOL;3SIGMA;3TAU;3UPSILON;3PHI;3CHI;3PSI;
     3OMEGA;2NABLA;2SMALL ALPHA;3BETA;3GAMMA;3DELTA;3EPSILON;3ZETA;3ETA;3THETA;3IOTA;3KAPPA;3LAMDA;
     3MU;3NU;3XI;3OMICRON;3PI;3RHO;3FINAL SIGMA;3SIGMA;3TAU;3UPSILON;3PHI;3CHI;3PSI;3OMEGA;
     2PARTIAL DIFFERENTIAL;2EPSILON SYMBOL;2THETA/1;2KAPPA/1;2PHI/1;2RHO/1;2PI/1;
     1ITALIC CAPITAL ALPHA;3BETA;3GAMMA;3DELTA;3EPSILON;3ZETA;3ETA;3THETA;3IOTA;3KAPPA;3LAMDA;3MU;
     3NU;3XI;3OMICRON;3PI;3RHO;3THETA SYMBOL;3SIGMA;3TAU;3UPSILON;3PHI;3CHI;3PSI;3OMEGA;2NABLA;
     2SMALL ALPHA;3BETA;3GAMMA;3DELTA"),
   (0x1D700, "MATHEMATICAL ITALIC SMALL EPSILON;3ZETA;3ETA;3THETA;3IOTA;3KAPPA;3LAMDA;3MU;3NU;3XI;
     3OMICRON;3PI;3RHO;3FINAL SIGMA;3SIGMA;3TAU;3UPSILON;3PHI;3CHI;3PSI;3OMEGA;
     2PARTIAL DIFFERENTIAL;2EPSILON SYMBOL;2THETA/1;2KAPPA/1;2PHI/1;2RHO/1;2PI/1;
     1BOLD ITALIC CAPITAL ALPHA;4BETA;4GAMMA;4DELTA;4EPSILON;4ZETA;4ETA;4THETA;4IOTA;4KAPPA;4LAMDA;
     4MU;4NU;4XI;4OMICRON;4PI;4RHO;4THETA SYMBOL;4SIGMA;4TAU;4UPSILON;4PHI;4CHI;4PSI;4OMEGA;3NABLA;
     3SMALL ALPHA;4BETA;4GAMMA;4DELTA;4EPSILON;4ZETA;4ETA;4THETA;4IOTA;4KAPPA;4LAMDA;4MU;4NU;4XI;
     4OMICRON;4PI;4RHO;4FINAL SIGMA;4SIGMA;4TAU;4UPSILON;4PHI;4CHI;4PSI;4OMEGA;
     3PARTIAL DIFFERENTIAL;3EPSILON SYMBOL;3THETA/1;3KAPPA/1;3PHI/1;3RHO/1;3PI/1;
     1SANS-SERIF BOLD CAPITAL ALPHA;4BETA;4GAMMA;4DELTA;4EPSILON;4ZETA;4ETA;4THETA;4IOTA;4KAPPA;
     4LAMDA;4MU;4NU;4XI;4OMICRON;4PI;4RHO;4THETA SYMBOL;4SIGMA;4TAU;4UPSILON;4PHI;4CHI;4PSI;4OMEGA;
     3NABLA;3SMALL ALPHA;4BETA;4GAMMA;4DELTA;4EPSILON;4ZETA;4ETA;4THETA;4IOTA;4KAPPA;4LAMDA;4MU;4NU;
     4XI;4OMICRON;4PI;4RHO;4FINAL SIGMA;4SIGMA;4TAU;4UPSILON;4PHI;4CHI;4PSI;4OMEGA;
     3PARTIAL DIFFERENTIAL;3EPSILON SYMBOL;3THETA/1;3KAPPA/1;3PHI/1;3RHO/1;3PI/1;
     3ITALIC CAPITAL ALPHA;5BETA;5GAMMA;5DELTA;5EPSILON;5ZETA;5ETA;5THETA;5IOTA;5KAPPA;5LAMDA;5MU;
     5NU;5XI;5OMICRON;5PI;5RHO;5THETA SYMBOL;5SIGMA;5TAU;5UPSILON;5PHI;5CHI;5PSI;5OMEGA;4NABLA;
     4SMALL ALPHA;5BETA;5GAMMA;5DELTA;5EPSILON;5ZETA;5ETA;5THETA;5IOTA;5KAPPA;5LAMDA;5MU;5NU;5XI;
     5OMICRON;5PI;5RHO;5FINAL SIGMA;5SIGMA;5TAU;5UPSILON;5PHI;5CHI;5PSI;5OMEGA;
     4PARTIAL DIFFERENTIAL;4EPSILON SYMBOL;4THETA/1;4KAPPA/1;4PHI/1;4RHO/1;4PI/1;
     1BOLD CAPITAL DIGAMMA;2SMALL/1"),
   (0x1D7CE, "MATHEMATICAL BOLD DIGIT ZERO;3ONE;3TWO;3THREE;3FOUR;3FIVE;3SIX;3SEVEN;3EIGHT;3NINE;
     1DOUBLE-STRUCK DIGIT ZERO;3ONE;3TWO;3THREE;3FOUR;3FIVE;3SIX;3SEVEN;3EIGHT;3NINE;
     1SANS-SERIF DIGIT ZERO;3ONE;3TWO;3THREE;3FOUR;3FIVE;3SIX;3SEVEN;3EIGHT;3NINE;2BOLD DIGIT ZERO;
     4ONE;4TWO;4THREE;4FOUR;4FIVE;4SIX;4SEVEN;4EIGHT;4NINE;1MONOSPACE DIGIT ZERO;3ONE;3TWO;3THREE;
     3FOUR;3FIVE;3SIX;3SEVEN;3EIGHT;3NINE"),
   (0x1D800, "SIGNWRITING HAND-FIST INDEX;1HAND-CIRCLE/1;1HAND-CUP/1;1HAND-OVAL/1;1HAND-HINGE/1;
     1HAND-ANGLE/1;1HAND-FIST INDEX BENT;1HAND-CIRCLE/2;1HAND-FIST THUMB UNDER/2;
     2INDEX RAISED KNUCKLE;3CUPPED;3HINGED;4LOW;1HAND-CIRCLE INDEX HINGE;1HAND-FIST INDEX MIDDLE;
     1HAND-CIRCLE/2;1HAND-FIST INDEX MIDDLE BENT;4RAISED KNUCKLES;4HINGED;3UP/2;3HINGED MIDDLE UP;
     3MIDDLE CONJOINED;5INDEX BENT;5MIDDLE/1;5CUPPED;5HINGED;4CROSSED;1HAND-CIRCLE/3;
     1HAND-FIST MIDDLE BENT OVER INDEX;2INDEX BENT OVER MIDDLE;3MIDDLE THUMB;1HAND-CIRCLE/3;
     1HAND-FIST INDEX MIDDLE STRAIGHT THUMB BENT;4BENT THUMB STRAIGHT;4THUMB BENT;
     4HINGED SPREAD THUMB SIDE;3UP MIDDLE HINGED/2;7CONJOINED;3HINGED MIDDLE UP THUMB SIDE;
     3MIDDLE UP SPREAD THUMB FORWARD;4THUMB CUPPED;5CIRCLED;5HOOKED;5HINGED;
     2THUMB BETWEEN INDEX MIDDLE STRAIGHT;2INDEX MIDDLE CONJOINED THUMB SIDE;7CONJOINED;7BENT;
     2MIDDLE THUMB HOOKED INDEX UP;2INDEX THUMB HOOKED MIDDLE/1;3MIDDLE CONJOINED HINGED THUMB SIDE;
     4CROSSED/2;4CONJOINED THUMB FORWARD;5CUPPED/2;2MIDDLE THUMB CUPPED INDEX UP;
     2INDEX THUMB CUPPED MIDDLE/1;2MIDDLE THUMB CIRCLED INDEX/1;6HINGED;
     2INDEX THUMB ANGLED OUT MIDDLE UP;5IN/2;4CIRCLED/2;3MIDDLE THUMB CONJOINED HINGED;5ANGLED OUT;
     5ANGLED;2MIDDLE THUMB ANGLED OUT INDEX UP;7CROSSED;5INDEX UP;2INDEX THUMB HOOKED MIDDLE HINGED;
     1HAND-FLAT FOUR FINGERS;4BENT;4HINGED;4CONJOINED;5SPLIT;1HAND-CLAW FOUR FINGERS CONJOINED;
     1HAND-FIST FOUR FINGERS CONJOINED BENT;1HAND-HINGE FOUR FINGERS CONJOINED;
     1HAND-FLAT FIVE FINGERS SPREAD;2HEEL/3;2FIVE FINGERS SPREAD FOUR BENT;2HEEL/5;
     2FIVE FINGERS SPREAD/1;2HEEL/4;2FIVE FINGERS SPREAD THUMB FORWARD;
     1HAND-CUP FIVE FINGERS SPREAD;5OPEN;1HAND-HINGE/4;1HAND-OVAL FIVE FINGERS SPREAD;
     1HAND-FLAT FIVE FINGERS SPREAD HINGED;6THUMB SIDE;6NO THUMB;1HAND-FLAT;2BETWEEN PALM FACINGS;
     2HEEL;2THUMB SIDE;2HEEL/2;2THUMB BENT;3FORWARD;2SPLIT INDEX THUMB SIDE;3CENTRE;4THUMB SIDE;
     6BENT;3LITTLE;1HAND-CLAW;2THUMB SIDE;2NO THUMB;2THUMB FORWARD;1HAND-HOOK CURLICUE;1HAND-HOOK;
     1HAND-CUP OPEN;1HAND-CUP;2OPEN THUMB SIDE;2THUMB/1;2OPEN NO THUMB;2NO/1;2OPEN THUMB FORWARD;
     2THUMB/1;1HAND-CURLICUE OPEN;1HAND-CURLICUE;1HAND-CIRCLE;1HAND-OVAL;2THUMB SIDE;2NO THUMB;
     2THUMB FORWARD;1HAND-HINGE OPEN;3THUMB FORWARD;1HAND-HINGE;2SMALL;2OPEN THUMB SIDE;2THUMB/1;
     2OPEN NO THUMB;2NO/1;2THUMB SIDE TOUCHING INDEX;3BETWEEN MIDDLE RING;1HAND-ANGLE;
     1HAND-FIST INDEX MIDDLE RING;1HAND-CIRCLE/3;1HAND-HINGE/3;1HAND-ANGLE/3;1HAND-HINGE LITTLE;
     1HAND-FIST INDEX MIDDLE RING BENT;5CONJOINED;1HAND-HINGE/4;1HAND-FIST LITTLE DOWN;
     4RIPPLE STRAIGHT;5CURVED;4OTHERS CIRCLED;3UP;2THUMB UNDER/2;1HAND-CIRCLE/2;1HAND-OVAL/2;
     1HAND-ANGLE/2;1HAND-FIST LITTLE RAISED KNUCKLE;3BENT;3TOUCHES THUMB;3THUMB;1HAND-HINGE/2;
     1HAND-FIST LITTLE INDEX/1;1HAND-HINGE/3;1HAND-ANGLE LITTLE INDEX THUMB INDEX THUMB OUT;6THUMB;
     1HAND-FIST LITTLE INDEX;1HAND-CIRCLE/2;1HAND-HINGE/2;1HAND-ANGLE/2;
     1HAND-FIST INDEX MIDDLE LITTLE;1HAND-CIRCLE/3;1HAND-HINGE/3;2RING;
     1HAND-ANGLE INDEX MIDDLE LITTLE;1HAND-FIST INDEX MIDDLE CROSS/1;1HAND-CIRCLE/4;
     1HAND-FIST RING DOWN;1HAND-HINGE RING DOWN INDEX THUMB HOOK MIDDLE;
     1HAND-ANGLE RING DOWN MIDDLE THUMB INDEX CROSS;1HAND-FIST RING UP;3RAISED KNUCKLE;3LITTLE;
     1HAND-CIRCLE/2;1HAND-OVAL/2;1HAND-ANGLE/2;1HAND-FIST RING MIDDLE;4CONJOINED;4RAISED KNUCKLES;
     3INDEX;3THUMB;1HAND-HOOK/2;1HAND-FIST INDEX RING LITTLE;1HAND-CIRCLE/3;
     1HAND-CURLICUE INDEX RING LITTLE ON;1HAND-HOOK INDEX RING LITTLE OUT;5IN;5UNDER;
     1HAND-CUP INDEX RING LITTLE;1HAND-HINGE/3;1HAND-ANGLE INDEX RING LITTLE OUT;4LITTLE;
     1HAND-FIST MIDDLE DOWN;1HAND-HINGE MIDDLE;1HAND-FIST MIDDLE UP;1HAND-CIRCLE/2;
     1HAND-FIST MIDDLE RAISED KNUCKLE;3UP THUMB SIDE;1HAND-HOOK MIDDLE THUMB;
     1HAND-FIST MIDDLE THUMB LITTLE;3LITTLE;3RING/1;1HAND-CIRCLE/3;
     1HAND-CURLICUE MIDDLE RING LITTLE ON;1HAND-CUP MIDDLE RING LITTLE;1HAND-HINGE/3;
     1HAND-ANGLE MIDDLE RING LITTLE OUT;5IN;4LITTLE;1HAND-CIRCLE MIDDLE RING LITTLE BENT;
     1HAND-CLAW MIDDLE RING LITTLE CONJOINED;6SIDE;1HAND-HOOK MIDDLE RING LITTLE CONJOINED OUT;6IN;
     5CONJOINED;1HAND-HINGE INDEX HINGED;1HAND-FIST INDEX THUMB SIDE;1HAND-HINGE/3;
     1HAND-FIST INDEX THUMB SIDE THUMB DIAGONAL;6CONJOINED;6BENT;5INDEX/1;5BOTH/1;5INDEX HINGE;
     4FORWARD INDEX STRAIGHT;6BENT;4HOOK;4CURLICUE;4CURVE THUMB INSIDE;1HAND-CLAW/5;
     1HAND-FIST INDEX THUMB CURVE THUMB UNDER;4CIRCLE;1HAND-CUP INDEX THUMB;4OPEN;1HAND-HINGE/3;
     4LARGE;3THUMB;4SMALL;1HAND-ANGLE INDEX THUMB OUT;4IN;3THUMB;1HAND-FIST/1;3HEEL;3SIDE DIAGONAL;
     4CONJOINED;4BENT;3FORWARD;3BETWEEN INDEX MIDDLE;4MIDDLE RING;4RING LITTLE;3UNDER TWO FINGERS;
     3OVER/2"),
   (0x1D900, "SIGNWRITING HAND-FIST THUMB UNDER THREE FINGERS;4FOUR/1;3OVER FOUR RAISED KNUCKLES;
     1HAND-FIST;2HEEL;1TOUCH SINGLE;2MULTIPLE;2BETWEEN;1GRASP SINGLE;2MULTIPLE;2BETWEEN;
     1STRIKE SINGLE;2MULTIPLE;2BETWEEN;1BRUSH SINGLE;2MULTIPLE;2BETWEEN;1RUB SINGLE;2MULTIPLE;
     2BETWEEN;1SURFACE SYMBOLS;2BETWEEN;1SQUEEZE LARGE SINGLE;2SMALL/1;2LARGE MULTIPLE;2SMALL/1;
     2SEQUENTIAL;1FLICK LARGE SINGLE;2SMALL/1;2LARGE MULTIPLE;2SMALL/1;2SEQUENTIAL;
     1SQUEEZE FLICK ALTERNATING;1MOVEMENT-HINGE UP DOWN LARGE;4SMALL;3SEQUENTIAL;2DOWN/1;
     2UP DOWN ALTERNATING LARGE;5SMALL;2SIDE TO SIDE SCISSORS;1MOVEMENT-WALLPLANE FINGER CONTACT;
     1MOVEMENT-FLOORPLANE/2;1MOVEMENT-WALLPLANE SINGLE STRAIGHT SMALL;4MEDIUM;4LARGE;4LARGEST;
     3WRIST FLEX;2DOUBLE STRAIGHT;3WRIST FLEX;3ALTERNATING;4WRIST FLEX;2CROSS;
     2TRIPLE STRAIGHT MOVEMENT;3WRIST FLEX;3ALTERNATING;4WRIST FLEX;2BEND SMALL;3MEDIUM;3LARGE;
     2CORNER SMALL;3MEDIUM;3LARGE;3ROTATION;2CHECK SMALL;3MEDIUM;3LARGE;2BOX SMALL;3MEDIUM;3LARGE;
     2ZIGZAG SMALL;3MEDIUM;3LARGE;2PEAKS SMALL;3MEDIUM;3LARGE;
     1TRAVEL-WALLPLANE ROTATION-WALLPLANE SINGLE;3DOUBLE;3ALTERNATING;2ROTATION-FLOORPLANE SINGLE;
     3DOUBLE;3ALTERNATING;2SHAKING;2ARM SPIRAL SINGLE;4DOUBLE;4TRIPLE;1MOVEMENT-DIAGONAL AWAY SMALL;
     3MEDIUM;3LARGE;3LARGEST;2TOWARDS SMALL;3MEDIUM;3LARGE;3LARGEST;2BETWEEN AWAY SMALL;4MEDIUM;
     4LARGE;4LARGEST;3TOWARDS SMALL;4MEDIUM;4LARGE;4LARGEST;
     1MOVEMENT-FLOORPLANE SINGLE STRAIGHT SMALL;4MEDIUM;4LARGE;4LARGEST;3WRIST FLEX;
     2DOUBLE STRAIGHT;3WRIST FLEX;3ALTERNATING;4WRIST FLEX;2CROSS;2TRIPLE STRAIGHT MOVEMENT;
     3WRIST FLEX;3ALTERNATING MOVEMENT;4WRIST FLEX;2BEND;2CORNER SMALL;3MEDIUM;3LARGE;2CHECK;
     2BOX SMALL;3MEDIUM;3LARGE;2ZIGZAG SMALL;3MEDIUM;3LARGE;2PEAKS SMALL;3MEDIUM;3LARGE;
     1TRAVEL-FLOORPLANE ROTATION-FLOORPLANE SINGLE;3DOUBLE;3ALTERNATING;2ROTATION-WALLPLANE SINGLE;
     3DOUBLE;3ALTERNATING;2SHAKING;1MOVEMENT-WALLPLANE CURVE QUARTER SMALL;4MEDIUM;4LARGE;4LARGEST;
     3HALF-CIRCLE SMALL;4MEDIUM;4LARGE;4LARGEST;3THREE-QUARTER CIRCLE SMALL;5MEDIUM;2HUMP SMALL;
     3MEDIUM;3LARGE;2LOOP SMALL;3MEDIUM;3LARGE;3SMALL DOUBLE;2WAVE CURVE DOUBLE SMALL;5MEDIUM;
     5LARGE;4TRIPLE SMALL;5MEDIUM;5LARGE;2CURVE THEN STRAIGHT;2CURVED CROSS SMALL;4MEDIUM;
     1ROTATION-WALLPLANE SINGLE;2DOUBLE;2ALTERNATE;1MOVEMENT-WALLPLANE SHAKING;
     2CURVE HITTING FRONT WALL;2HUMP/3;2LOOP/3;2WAVE/3;1ROTATION-WALLPLANE SINGLE/3;2DOUBLE/3;
     2ALTERNATING/3;1MOVEMENT-WALLPLANE CURVE HITTING CHEST;2HUMP/2;2LOOP/2;2WAVE/2;
     1ROTATION-WALLPLANE SINGLE/2;2DOUBLE/2;2ALTERNATING/2;
     1MOVEMENT-WALLPLANE WAVE DIAGONAL PATH SMALL;5MEDIUM;5LARGE;
     1MOVEMENT-FLOORPLANE CURVE HITTING CEILING SMALL;5LARGE;2HUMP HITTING CEILING SMALL DOUBLE;
     5LARGE/1;5SMALL TRIPLE;5LARGE/1;2LOOP HITTING CEILING SMALL SINGLE;5LARGE/1;5SMALL DOUBLE;
     5LARGE/1;2WAVE HITTING CEILING SMALL;5LARGE;1ROTATION-FLOORPLANE SINGLE HITTING CEILING;
     2DOUBLE/2;2ALTERNATING/2;1MOVEMENT-FLOORPLANE CURVE HITTING FLOOR SMALL;5LARGE;
     2HUMP HITTING FLOOR SMALL DOUBLE;5LARGE/1;5TRIPLE SMALL TRIPLE;6LARGE/1;
     2LOOP HITTING FLOOR SMALL SINGLE;5LARGE/1;5SMALL DOUBLE;5LARGE/1;2WAVE HITTING FLOOR SMALL;
     5LARGE;1ROTATION-FLOORPLANE SINGLE HITTING FLOOR;2DOUBLE/2;2ALTERNATING/2;
     1MOVEMENT-FLOORPLANE CURVE SMALL;3MEDIUM;3LARGE;3LARGEST;3COMBINED;2HUMP SMALL;2LOOP/1;
     2WAVE SNAKE;3SMALL;3LARGE;1ROTATION-FLOORPLANE SINGLE;2DOUBLE;2ALTERNATING;
     1MOVEMENT-FLOORPLANE SHAKING PARALLEL;1MOVEMENT-WALLPLANE ARM CIRCLE SMALL SINGLE;4MEDIUM/1;
     4SMALL DOUBLE;4MEDIUM/1;1MOVEMENT-FLOORPLANE ARM CIRCLE HITTING WALL SMALL SINGLE;6MEDIUM/1;
     6LARGE/1;6SMALL DOUBLE;6MEDIUM/1;6LARGE/1;1MOVEMENT-WALLPLANE WRIST CIRCLE FRONT SINGLE;
     5DOUBLE;1MOVEMENT-FLOORPLANE WRIST CIRCLE HITTING WALL SINGLE;6DOUBLE;
     1MOVEMENT-WALLPLANE FINGER CIRCLES SINGLE;4DOUBLE;
     1MOVEMENT-FLOORPLANE FINGER CIRCLES HITTING WALL SINGLE;6DOUBLE;1DYNAMIC ARROWHEAD SMALL;
     3LARGE;2FAST;2SLOW;2TENSE;2RELAXED;2SIMULTANEOUS;3ALTERNATING;2EVERY OTHER TIME;2GRADUAL;
     1HEAD"),
   (0x1DA00, "SIGNWRITING HEAD RIM;2MOVEMENT-WALLPLANE STRAIGHT;3TILT;2MOVEMENT-FLOORPLANE STRAIGHT;
     2MOVEMENT-WALLPLANE CURVE;2MOVEMENT-FLOORPLANE/1;2MOVEMENT CIRCLE;
     1FACE DIRECTION POSITION NOSE FORWARD TILTING;5UP OR DOWN;8TILTING;1EYEBROWS STRAIGHT UP;
     3NEUTRAL;3DOWN;1DREAMY EYEBROWS NEUTRAL/1;3DOWN NEUTRAL;3UP/1;3NEUTRAL UP;1FOREHEAD NEUTRAL;
     2CONTACT;2WRINKLED;1EYES OPEN;2SQUEEZED;2CLOSED;1EYE BLINK SINGLE;3MULTIPLE;1EYES HALF OPEN;
     2WIDE/1;2HALF CLOSED;2WIDENING MOVEMENT;1EYE WINK;1EYELASHES UP;2DOWN;2FLUTTERING;
     1EYEGAZE-WALLPLANE STRAIGHT;3DOUBLE;3ALTERNATING;1EYEGAZE-FLOORPLANE STRAIGHT;3DOUBLE;
     3ALTERNATING;1EYEGAZE-WALLPLANE CURVED;1EYEGAZE-FLOORPLANE/1;1EYEGAZE-WALLPLANE CIRCLING;
     1CHEEKS PUFFED;2NEUTRAL;2SUCKED;1TENSE CHEEKS HIGH;3MIDDLE;3LOW;1EARS;1NOSE NEUTRAL;2CONTACT;
     2WRINKLES;2WIGGLES;1AIR BLOWING OUT;2SUCKING IN;2BLOW SMALL ROTATIONS;2SUCK/2;1BREATH INHALE;
     2EXHALE;1MOUTH CLOSED NEUTRAL;3FORWARD;3CONTACT;2SMILE;3WRINKLED;3OPEN;2FROWN;3WRINKLED;3OPEN;
     2OPEN CIRCLE;3FORWARD;3WRINKLED;3OVAL;4WRINKLED;4YAWN;3RECTANGLE;4WRINKLED;4YAWN;2KISS;
     3FORWARD;3WRINKLED;2TENSE;3FORWARD;3SUCKED;1LIPS PRESSED TOGETHER;1LIP LOWER OVER UPPER;
     2UPPER OVER LOWER;1MOUTH CORNERS;2WRINKLES SINGLE;3DOUBLE;1TONGUE STICKING OUT FAR;
     2LICKING LIPS;2TIP BETWEEN/1;3TOUCHING INSIDE MOUTH;2INSIDE MOUTH RELAXED;2MOVES AGAINST CHEEK;
     2CENTRE STICKING OUT;3INSIDE MOUTH;1TEETH;2MOVEMENT;2ON TONGUE;4MOVEMENT;3LIPS;4MOVEMENT;
     2BITE LIPS;1MOVEMENT-WALLPLANE JAW;1MOVEMENT-FLOORPLANE/1;1NECK;1HAIR;1EXCITEMENT;
     1SHOULDER HIP SPINE;3POSITIONS;1WALLPLANE SHOULDER HIP MOVE;1FLOORPLANE/3;
     1SHOULDER TILTING FROM WAIST;1TORSO-WALLPLANE STRAIGHT STRETCH;2CURVED BEND;
     1TORSO-FLOORPLANE TWISTING;1UPPER BODY TILTING FROM HIP JOINTS;1LIMB COMBINATION;2LENGTH-1;+6;
     1FINGER;1LOCATION-WALLPLANE SPACE;1LOCATION-FLOORPLANE/1;1LOCATION HEIGHT;2WIDTH;2DEPTH;
     2HEAD NECK;2TORSO;2LIMBS DIGITS;1COMMA;1FULL STOP;1SEMICOLON;1COLON;1PARENTHESIS"),
   (0x1DA9B, "SIGNWRITING FILL MODIFIER-2;+4"),
   (0x1DAA1, "SIGNWRITING ROTATION MODIFIER-2;+14"),
   (0x1DF00, "LATIN SMALL LETTER FENG DIGRAPH WITH TRILL;3REVERSED SCRIPT G;
     1LETTER SMALL CAPITAL TURNED G;1SMALL LETTER REVERSED K;1LETTER SMALL CAPITAL L WITH BELT;
     1SMALL LETTER LEZH WITH RETROFLEX HOOK;3TURNED Y WITH BELT;3REVERSED ENG;
     3TURNED R WITH LONG LEG AND RETROFLEX HOOK;3T WITH HOOK/3;1LETTER RETROFLEX CLICK WITH/2;
     1SMALL LETTER ESH WITH DOUBLE BAR;7AND CURL;3TURNED T WITH/1;1LETTER INVERTED GLOTTAL STOP/2;
     2STRETCHED C/2;2SMALL CAPITAL TURNED K;1SMALL LETTER L WITH FISHHOOK;
     3DEZH DIGRAPH WITH PALATAL HOOK;3L WITH BELT AND/2;3ENG WITH/2;3TURNED R/3;
     3R WITH FISHHOOK AND/2;3TESH DIGRAPH WITH/2;3EZH/3;3DEZH DIGRAPH WITH RETROFLEX/1;
     3I WITH STROKE AND/2;3O WITH/2;3TESH DIGRAPH/3;3C/3;3S WITH CURL"),
   (0x1E000, "COMBINING GLAGOLITIC LETTER AZU;3BUKY;3VEDE;3GLAGOLI;3DOBRO;3YESTU;3ZHIVETE"),
   (0x1E008, "COMBINING GLAGOLITIC LETTER ZEMLJA;3IZHE;3INITIAL/1;3I;3DJERVI;3KAKO;3LJUDIJE;
     3MYSLITE;3NASHI;3ONU;3POKOJI;3RITSI;3SLOVO;3TVRIDO;3UKU;3FRITU;3HERU"),
   (0x1E01B, "COMBINING GLAGOLITIC LETTER SHTA;3TSI;3CHRIVI;3SHA;3YERU;3YERI;3YATI"),
   (0x1E023, "COMBINING GLAGOLITIC LETTER YU;3SMALL YUS"),
   (0x1E026, "COMBINING GLAGOLITIC LETTER YO;3IOTATED SMALL YUS;3BIG/1;3IOTATED/2;3FITA"),
   (0x1E100, "NYIAKENG PUACHUE HMONG LETTER MA;4TSA;4NTA;4TA;4HA;4NA;4XA;4NKA;4CA;4LA;4SA;4ZA;4NCA;
     4NTSA;4KA;4DA;4NYA;4NRA;4VA;4NTXA;4TXA;4FA;4RA;4QA;4YA;4NQA;4PA;4XYA;4NPA;4DLA;4NPLA;4HAH;4MLA;
     4PLA;4GA;4RRA;4A;4AA;4I;4U;4O;4OO;4E;4EE;4W"),
   (0x1E130, "NYIAKENG PUACHUE HMONG TONE-B;3TONE-M;3TONE-J;3TONE-V;3TONE-S;3TONE-G;3TONE-D;
     3SIGN FOR PERSON;5THING;5LOCATION;5ANIMAL;5INVERTEBRATE;4XW XW;3SYLLABLE LENGTHENER"),
   (0x1E140, "NYIAKENG PUACHUE HMONG DIGIT ZERO;4ONE;4TWO;4THREE;4FOUR;4FIVE;4SIX;4SEVEN;4EIGHT;
     4NINE"),
   (0x1E14E, "NYIAKENG PUACHUE HMONG LOGOGRAM NYAJ;3CIRCLED CA"),
   (0x1E290, "TOTO LETTER PA;2BA;2TA;2DA;2KA;2GA;2MA;2NA;2NGA;2SA;2CHA;2YA;2WA;2JA;2HA;2RA;2LA;2I;
     2BREATHY I;2IU;2BREATHY/1;2U;2E;2BREATHY E;2EO;2BREATHY/1;2O;2AE;2BREATHY/1;2A;
     1SIGN RISING TONE"),
   (0x1E2C0, "WANCHO LETTER AA;2A;2BA;2CA;2DA;2GA;2YA;2PHA;2LA;2NA;2PA;2TA;2THA;2FA;2SA;2SHA;2JA;
     2ZA;2WA;2VA;2KA;2O;2AU;2RA;2MA;2KHA;2HA;2E;2I;2NGA;2U;2LLHA;2TSA;2TRA;2ONG;2AANG;2ANG;2ING;2ON;
     2EN;2AAN;2NYA;2UEN;2YIH;1TONE TUP;2TUPNI;2KOI;2KOINI;1DIGIT ZERO;2ONE;2TWO;2THREE;2FOUR;2FIVE;
     2SIX;2SEVEN;2EIGHT;2NINE"),
   (0x1E2FF, "WANCHO NGUN SIGN"),
   (0x1E7E0, "ETHIOPIC SYLLABLE HHYA;2HHYU;2HHYI;2HHYAA;2HHYEE;2HHYE;2HHYO"),
   (0x1E7E8, "ETHIOPIC SYLLABLE GURAGE HHWA;2HHWI;2HHWEE;2HHWE"),
   (0x1E7ED, "ETHIOPIC SYLLABLE GURAGE MWI;3MWEE"),
   (0x1E7F0, "ETHIOPIC SYLLABLE GURAGE QWI;3QWEE;3QWE;3BWI;3BWEE;3KWI;3KWEE;3KWE;3GWI;3GWEE;3GWE;
     3FWI;3FWEE;3PWI;3PWEE"),
   (0x1E800, "MENDE KIKAKUI SYLLABLE M001 KI;3M002 KA;3M003 KU;3M065 KEE;3M095 KE;3M076 KOO;
     3M048 KO;3M179 KUA;3M004 WI;3M005 WA;3M006 WU;3M126 WEE;3M118 WE;3M114 WOO;3M045 WO;3M194 WUI;
     3M143 WEI;3M061 WVI;3M049 WVA;3M139 WVE;3M007 MIN;3M008 MAN;3M009 MUN;3M059 MEN;3M094 MON;
     3M154 MUAN;3M189 MUEN;3M010 BI;3M011 BA;3M012 BU;3M150 BEE;3M097 BE;3M103 BOO;3M138 BO;3M013 I;
     3M014 A;3M015 U;3M163 EE;3M100 E;3M165 OO;3M147 O;3M137 EI;3M131 IN;3M135/1;3M195 AN;3M178 EN;
     3M019 SI;3M020 SA;3M021 SU;3M162 SEE;3M116 SE;3M136 SOO;3M079 SO;3M196 SIA;3M025 LI;3M026 LA;
     3M027 LU;3M084 LEE;3M073 LE;3M054 LOO;3M153 LO;3M110 LONG LE;3M016 DI;3M017 DA;3M018 DU;
     3M089 DEE;3M180 DOO;3M181 DO;3M022 TI;3M023 TA;3M024 TU;3M091 TEE;3M055 TE;3M104 TOO;3M069 TO;
     3M028 JI;3M029 JA;3M030 JU;3M157 JEE;3M113 JE;3M160 JOO;3M063 JO;3M175 LONG/1;3M031 YI;
     3M032 YA;3M033 YU;3M109 YEE;3M080 YE;3M141 YOO;3M121 YO;3M034 FI;3M035 FA;3M036 FU;3M078 FEE;
     3M075 FE;3M133 FOO;3M088 FO;3M197 FUA;3M101 FAN;3M037 NIN;3M038 NAN;3M039 NUN;3M117 NEN;
     3M169 NON;3M176 HI;3M041 HA;3M186 HU;3M040 HEE;3M096 HE;3M042 HOO;3M140 HO;3M083 HEEI;
     3M128 HOOU;3M053 HIN;3M130 HAN;3M087 HUN;3M052 HEN;3M193 HON;3M046 HUAN;3M090 NGGI;3M043 NGGA;
     3M082 NGGU;3M115 NGGEE;3M146 NGGE;3M156 NGGOO;3M120 NGGO;3M159 NGGAA;3M127 NGGUA;
     3M086 LONG NGGE;3M106 LONG NGGOO;3M183 LONG NGGO;3M155 GI;3M111 GA;3M168 GU;3M190 GEE;
     3M166 GUEI;3M167 GUAN;3M184 NGEN;3M057 NGON;3M177 NGUAN;3M068 PI;3M099 PA;3M050 PU;3M081 PEE;
     3M051 PE;3M102 POO;3M066 PO;3M145 MBI;3M062 MBA;3M122 MBU;3M047 MBEE;3M188/1;3M072 MBE;
     3M172 MBOO;3M174 MBO;3M187 MBUU;3M161 LONG MBE;3M105 LONG MBOO;3M142 LONG MBO;3M132 KPI;
     3M092 KPA;3M074 KPU;3M044 KPEE;3M108 KPE;3M112 KPOO;3M158 KPO;3M124 GBI;3M056 GBA;3M148 GBU;
     3M093 GBEE;3M107 GBE;3M071 GBOO;3M070 GBO;3M171 RA;3M123 NDI;3M129 NDA;3M125 NDU;3M191 NDEE;
     3M119 NDE;3M067 NDOO;3M064 NDO;3M152 NJA;3M192 NJU;3M149 NJEE;3M134 NJOO;3M182 VI;3M185 VA;
     3M151 VU;3M173 VEE;3M085 VE;3M144 VOO;3M077 VO;3M164 NYIN;3M058 NYAN;3M170 NYUN;3M098 NYEN;
     3M060 NYON"),
   (0x1E8C7, "MENDE KIKAKUI DIGIT ONE;3TWO;3THREE;3FOUR;3FIVE;3SIX;3SEVEN;3EIGHT;3NINE;
     2COMBINING NUMBER TEENS;4TENS;4HUNDREDS;4THOUSANDS;4TEN/1;4HUNDRED/1;4MILLIONS"),
   (0x1E900, "ADLAM CAPITAL LETTER ALIF;3DAALI;3LAAM;3MIIM;3BA;3SINNYIIYHE;3PE;3BHE;3RA;3E;3FA;3I;
     3O;3DHA;3YHE;3WAW;3NUN;3KAF;3YA;3U;3JIIM;3CHI;3HA;3QAAF;3GA;3NYA;3TU;3NHA;3VA;3KHA;3GBE;3ZAL;
     3KPO;3SHA;1SMALL LETTER ALIF;3DAALI;3LAAM;3MIIM;3BA;3SINNYIIYHE;3PE;3BHE;3RA;3E;3FA;3I;3O;3DHA;
     3YHE;3WAW;3NUN;3KAF;3YA;3U;3JIIM;3CHI;3HA;3QAAF;3GA;3NYA;3TU;3NHA;3VA;3KHA;3GBE;3ZAL;3KPO;3SHA;
     1ALIF LENGTHENER;1VOWEL/1;1GEMINATION MARK;1HAMZA;1CONSONANT MODIFIER;1GEMINATE/2;1NUKTA;
     1NASALIZATION MARK"),
   (0x1E950, "ADLAM DIGIT ZERO;2ONE;2TWO;2THREE;2FOUR;2FIVE;2SIX;2SEVEN;2EIGHT;2NINE"),
   (0x1E95E, "ADLAM INITIAL EXCLAMATION MARK;2QUESTION/1"),
   (0x1EC71, "INDIC SIYAQ NUMBER ONE;3TWO;3THREE;3FOUR;3FIVE;3SIX;3SEVEN;3EIGHT;3NINE;3TEN;3TWENTY;
     3THIRTY;3FORTY;3FIFTY;3SIXTY;3SEVENTY;3EIGHTY;3NINETY;3ONE HUNDRED;3TWO/1;3THREE/1;3FOUR/1;
     3FIVE/1;3SIX/1;3SEVEN/1;3EIGHT/1;3NINE/1;3ONE THOUSAND;3TWO/1;3THREE/1;3FOUR/1;3FIVE/1;3SIX/1;
     3SEVEN/1;3EIGHT/1;3NINE/1;3TEN/1;3TWENTY/1;3THIRTY/1;3FORTY/1;3FIFTY/1;3SIXTY/1;3SEVENTY/1;
     3EIGHTY/1;3NINETY/1;3LAKH;3LAKHAN;2LAKH MARK;2NUMBER KAROR;3KARORAN;3PREFIXED ONE;4TWO;4THREE;
     4FOUR;4FIVE;4SIX;4SEVEN;4EIGHT;4NINE;2PLACEHOLDER;2FRACTION ONE QUARTER;4HALF;3THREE QUARTERS;
     2RUPEE MARK;2NUMBER ALTERNATE ONE;4TWO;4TEN THOUSAND;2ALTERNATE LAKH MARK"),
   (0x1ED01, "OTTOMAN SIYAQ NUMBER ONE;3TWO;3THREE;3FOUR;3FIVE;3SIX;3SEVEN;3EIGHT;3NINE;3TEN;
     3TWENTY;3THIRTY;3FORTY;3FIFTY;3SIXTY;3SEVENTY;3EIGHTY;3NINETY;3ONE HUNDRED;3TWO/1;3THREE/1;
     3FOUR/1;3FIVE/1;3SIX/1;3SEVEN/1;3EIGHT/1;3NINE/1;3ONE THOUSAND;3TWO/1;3THREE/1;3FOUR/1;3FIVE/1;
     3SIX/1;3SEVEN/1;3EIGHT/1;3NINE/1;3TEN/1;3TWENTY/1;3THIRTY/1;3FORTY/1;3FIFTY/1;3SIXTY/1;
     3SEVENTY/1;3EIGHTY/1;3NINETY/1;2MARRATAN;2ALTERNATE NUMBER TWO;4THREE;4FOUR;4FIVE;4SIX;4SEVEN;
     4EIGHT;4NINE;4TEN;4FOUR HUNDRED;4SIX/1;4TWO THOUSAND;4TEN/1;2FRACTION ONE HALF;4SIXTH"),
   (0x1EE00, "ARABIC MATHEMATICAL ALEF;2BEH;2JEEM;2DAL"),
   (0x1EE05, "ARABIC MATHEMATICAL WAW;2ZAIN;2HAH;2TAH;2YEH;2KAF;2LAM;2MEEM;2NOON;2SEEN;2AIN;2FEH;
     2SAD;2QAF;2REH;2SHEEN;2TEH;2THEH;2KHAH;2THAL;2DAD;2ZAH;2GHAIN;2DOTLESS BEH;3NOON;3FEH;3QAF"),
   (0x1EE21, "ARABIC MATHEMATICAL INITIAL BEH;3JEEM"),
   (0x1EE24, "ARABIC MATHEMATICAL INITIAL HEH"),
   (0x1EE27, "ARABIC MATHEMATICAL INITIAL HAH"),
   (0x1EE29, "ARABIC MATHEMATICAL INITIAL YEH;3KAF;3LAM;3MEEM;3NOON;3SEEN;3AIN;3FEH;3SAD;3QAF"),
   (0x1EE34, "ARABIC MATHEMATICAL INITIAL SHEEN;3TEH;3THEH;3KHAH"),
   (0x1EE39, "ARABIC MATHEMATICAL INITIAL DAD"),
   (0x1EE3B, "ARABIC MATHEMATICAL INITIAL GHAIN"),
   (0x1EE42, "ARABIC MATHEMATICAL TAILED JEEM"),
   (0x1EE47, "ARABIC MATHEMATICAL TAILED HAH"),
   (0x1EE49, "ARABIC MATHEMATICAL TAILED YEH"),
   (0x1EE4B, "ARABIC MATHEMATICAL TAILED LAM"),
   (0x1EE4D, "ARABIC MATHEMATICAL TAILED NOON;3SEEN;3AIN"),
   (0x1EE51, "ARABIC MATHEMATICAL TAILED SAD;3QAF"),
   (0x1EE54, "ARABIC MATHEMATICAL TAILED SHEEN"),
   (0x1EE57, "ARABIC MATHEMATICAL TAILED KHAH"),
   (0x1EE59, "ARABIC MATHEMATICAL TAILED DAD"),
   (0x1EE5B, "ARABIC MATHEMATICAL TAILED GHAIN"),
   (0x1EE5D, "ARABIC MATHEMATICAL TAILED DOTLESS NOON"),
   (0x1EE5F, "ARABIC MATHEMATICAL TAILED DOTLESS QAF"),
   (0x1EE61, "ARABIC MATHEMATICAL STRETCHED BEH;3JEEM"),
   (0x1EE64, "ARABIC MATHEMATICAL STRETCHED HEH"),
   (0x1EE67, "ARABIC MATHEMATICAL STRETCHED HAH;3TAH;3YEH;3KAF"),
   (0x1EE6C, "ARABIC MATHEMATICAL STRETCHED MEEM;3NOON;3SEEN;3AIN;3FEH;3SAD;3QAF"),
   (0x1EE74, "ARABIC MATHEMATICAL STRETCHED SHEEN;3TEH;3THEH;3KHAH"),
   (0x1EE79, "ARABIC MATHEMATICAL STRETCHED DAD;3ZAH;3GHAIN;3DOTLESS BEH"),
   (0x1EE7E, "ARABIC MATHEMATICAL STRETCHED DOTLESS FEH"),
   (0x1EE80, "ARABIC MATHEMATICAL LOOPED ALEF;3BEH;3JEEM;3DAL;3HEH;3WAW;3ZAIN;3HAH;3TAH;3YEH"),
   (0x1EE8B, "ARABIC MATHEMATICAL LOOPED LAM;3MEEM;3NOON;3SEEN;3AIN;3FEH;3SAD;3QAF;3REH;3SHEEN;3TEH;
     3THEH;3KHAH;3THAL;3DAD;3ZAH;3GHAIN"),
   (0x1EEA1, "ARABIC MATHEMATICAL DOUBLE-STRUCK BEH;3JEEM;3DAL"),
   (0x1EEA5, "ARABIC MATHEMATICAL DOUBLE-STRUCK WAW;3ZAIN;3HAH;3TAH;3YEH"),
   (0x1EEAB, "ARABIC MATHEMATICAL DOUBLE-STRUCK LAM;3MEEM;3NOON;3SEEN;3AIN;3FEH;3SAD;3QAF;3REH;
     3SHEEN;3TEH;3THEH;3KHAH;3THAL;3DAD;3ZAH;3GHAIN"),
   (0x1EEF0, "ARABIC MATHEMATICAL OPERATOR MEEM WITH HAH WITH TATWEEL;3HAH WITH DAL"),
   (0x1F000, "MAHJONG TILE EAST WIND;2SOUTH/1;2WEST/1;2NORTH/1;2RED DRAGON;2GREEN/1;2WHITE/1;
     2ONE OF CHARACTERS;2TWO/2;2THREE/2;2FOUR/2;2FIVE/2;2SIX/2;2SEVEN/2;2EIGHT/2;2NINE/2;
     2ONE OF BAMBOOS;2TWO/2;2THREE/2;2FOUR/2;2FIVE/2;2SIX/2;2SEVEN/2;2EIGHT/2;2NINE/2;
     2ONE OF CIRCLES;2TWO/2;2THREE/2;2FOUR/2;2FIVE/2;2SIX/2;2SEVEN/2;2EIGHT/2;2NINE/2;2PLUM;2ORCHID;
     2BAMBOO;2CHRYSANTHEMUM;2SPRING;2SUMMER;2AUTUMN;2WINTER;2JOKER;2BACK"),
   (0x1F030, "DOMINO TILE HORIZONTAL BACK;2HORIZONTAL-00-00;+6;2HORIZONTAL-01-00;+6;
     2HORIZONTAL-02-00;+6;2HORIZONTAL-03-00;+6;2HORIZONTAL-04-00;+6;2HORIZONTAL-05-00;+6;
     2HORIZONTAL-06-00;+6;2VERTICAL BACK;2VERTICAL-00-00;+6;2VERTICAL-01-00;+6;2VERTICAL-02-00;+6;
     2VERTICAL-03-00;+6;2VERTICAL-04-00;+6;2VERTICAL-05-00;+6;2VERTICAL-06-00;+6"),
   (0x1F0A0, "PLAYING CARD BACK;2ACE OF SPADES;2TWO/2;2THREE/2;2FOUR/2;2FIVE/2;2SIX/2;2SEVEN/2;
     2EIGHT/2;2NINE/2;2TEN/2;2JACK/2;2KNIGHT/2;2QUEEN/2;2KING/2"),
   (0x1F0B1, "PLAYING CARD ACE OF HEARTS;2TWO/2;2THREE/2;2FOUR/2;2FIVE/2;2SIX/2;2SEVEN/2;2EIGHT/2;
     2NINE/2;2TEN/2;2JACK/2;2KNIGHT/2;2QUEEN/2;2KING/2;2RED JOKER"),
   (0x1F0C1, "PLAYING CARD ACE OF DIAMONDS;2TWO/2;2THREE/2;2FOUR/2;2FIVE/2;2SIX/2;2SEVEN/2;2EIGHT/2;
     2NINE/2;2TEN/2;2JACK/2;2KNIGHT/2;2QUEEN/2;2KING/2;2BLACK JOKER"),
   (0x1F0D1, "PLAYING CARD ACE OF CLUBS;2TWO/2;2THREE/2;2FOUR/2;2FIVE/2;2SIX/2;2SEVEN/2;2EIGHT/2;
     2NINE/2;2TEN/2;2JACK/2;2KNIGHT/2;2QUEEN/2;2KING/2;2WHITE JOKER;2FOOL;2TRUMP-1;+20"),
   (0x1F100, "DIGIT ZERO FULL STOP;2COMMA;1ONE/1;1TWO/1;1THREE/1;1FOUR/1;1FIVE/1;1SIX/1;1SEVEN/1;
     1EIGHT/1;1NINE/1;DINGBAT CIRCLED SANS-SERIF DIGIT ZERO;1NEGATIVE/4;CIRCLED ZERO WITH SLASH;
     1ANTICLOCKWISE ARROW;1DOLLAR SIGN WITH OVERLAID BACKSLASH;PARENTHESIZED LATIN CAPITAL LETTER A;
     +25;TORTOISE SHELL BRACKETED LATIN CAPITAL LETTER S;CIRCLED ITALIC LATIN CAPITAL LETTER C;5R;
     1CD;1WZ;COPYLEFT SYMBOL;SQUARED LATIN CAPITAL LETTER A;+25;1HV;1MV;1SD;1SS;1PPV;1WC;
     NEGATIVE CIRCLED LATIN CAPITAL LETTER A;+25;RAISED MC SIGN;1MD/1;1MR/1;CIRCLED CC;
     1C WITH OVERLAID BACKSLASH;1HUMAN FIGURE;NEGATIVE SQUARED LATIN CAPITAL LETTER A;+25;
     CROSSED NEGATIVE SQUARED LATIN CAPITAL LETTER P;NEGATIVE SQUARED IC;2PA;2SA;2AB;2WC;SQUARE DJ;
     SQUARED CL;1COOL;1FREE;1ID;1NEW;1NG;1OK;1SOS;1UP WITH EXCLAMATION MARK;1VS;1THREE D;
     1SECOND SCREEN;1TWO K;1FOUR K;1EIGHT K;1FIVE POINT ONE;1SEVEN/2;1TWENTY-TWO POINT TWO;1SIXTY P;
     1ONE HUNDRED TWENTY P;1LATIN SMALL LETTER D;1HC;1HDR;1HI-RES;1LOSSLESS;1SHV;1UHD;1VOD;
     MASK WORK SYMBOL"),
   (0x1F1E6, "REGIONAL INDICATOR SYMBOL LETTER A;+25"),
   (0x1F200, "SQUARE HIRAGANA HOKA;SQUARED KATAKANA KOKO;2SA"),
   (0x1F210, "SQUARED CJK UNIFIED IDEOGRAPH-624B;3IDEOGRAPH-5B57;3IDEOGRAPH-53CC;1KATAKANA DE;
     1CJK UNIFIED IDEOGRAPH-4E8C;3IDEOGRAPH-591A;3IDEOGRAPH-89E3;3IDEOGRAPH-5929;3IDEOGRAPH-4EA4;
     3IDEOGRAPH-6620;3IDEOGRAPH-7121;3IDEOGRAPH-6599;3IDEOGRAPH-524D;3IDEOGRAPH-5F8C;
     3IDEOGRAPH-518D;3IDEOGRAPH-65B0;3IDEOGRAPH-521D;3IDEOGRAPH-7D42;3IDEOGRAPH-751F;
     3IDEOGRAPH-8CA9;3IDEOGRAPH-58F0;3IDEOGRAPH-5439;3IDEOGRAPH-6F14;3IDEOGRAPH-6295;
     3IDEOGRAPH-6355;3IDEOGRAPH-4E00;3IDEOGRAPH-4E09;3IDEOGRAPH-904A;3IDEOGRAPH-5DE6;
     3IDEOGRAPH-4E2D;3IDEOGRAPH-53F3;3IDEOGRAPH-6307;3IDEOGRAPH-8D70;3IDEOGRAPH-6253;
     3IDEOGRAPH-7981;3IDEOGRAPH-7A7A;3IDEOGRAPH-5408;3IDEOGRAPH-6E80;3IDEOGRAPH-6709;
     3IDEOGRAPH-6708;3IDEOGRAPH-7533;3IDEOGRAPH-5272;3IDEOGRAPH-55B6;3IDEOGRAPH-914D"),
   (0x1F240, "TORTOISE SHELL BRACKETED CJK UNIFIED IDEOGRAPH-672C;5IDEOGRAPH-4E09;5IDEOGRAPH-4E8C;
     5IDEOGRAPH-5B89;5IDEOGRAPH-70B9;5IDEOGRAPH-6253;5IDEOGRAPH-76D7;5IDEOGRAPH-52DD;
     5IDEOGRAPH-6557"),
   (0x1F250, "CIRCLED IDEOGRAPH ADVANTAGE;2ACCEPT"),
   (0x1F260, "ROUNDED SYMBOL FOR FU;3LU;3SHOU;3XI;3SHUANGXI;3CAI"),
   (0x1F300, "CYCLONE;FOGGY;CLOSED UMBRELLA;NIGHT WITH STARS;SUNRISE OVER MOUNTAINS;SUNRISE;
     CITYSCAPE AT DUSK;SUNSET OVER BUILDINGS;RAINBOW;BRIDGE AT NIGHT;WATER WAVE;VOLCANO;MILKY WAY;
     EARTH GLOBE EUROPE-AFRICA;2AMERICAS;2ASIA-AUSTRALIA;GLOBE WITH MERIDIANS;NEW MOON SYMBOL;
     WAXING CRESCENT/2;FIRST QUARTER/2;WAXING GIBBOUS/2;FULL/2;WANING GIBBOUS/2;LAST QUARTER/2;
     WANING CRESCENT/2;CRESCENT MOON;NEW MOON WITH FACE;FIRST QUARTER/3;LAST/4;FULL/3;SUN/2;
     GLOWING STAR;SHOOTING/1;THERMOMETER;BLACK DROPLET;WHITE SUN;2WITH SMALL CLOUD;2BEHIND/1;
     4WITH RAIN;CLOUD/2;2SNOW;2LIGHTNING;2TORNADO;FOG;WIND BLOWING FACE;HOT DOG;TACO;BURRITO;
     CHESTNUT;SEEDLING;EVERGREEN TREE;DECIDUOUS/1;PALM/1;CACTUS;HOT PEPPER;TULIP;CHERRY BLOSSOM;
     ROSE;HIBISCUS;SUNFLOWER;BLOSSOM;EAR OF MAIZE;2RICE;HERB;FOUR LEAF CLOVER;MAPLE LEAF;FALLEN/1;
     LEAF FLUTTERING IN WIND;MUSHROOM;TOMATO;AUBERGINE;GRAPES;MELON;WATERMELON;TANGERINE;LEMON;
     BANANA;PINEAPPLE;RED APPLE;GREEN/1;PEAR;PEACH;CHERRIES;STRAWBERRY;HAMBURGER;SLICE OF PIZZA;
     MEAT ON BONE;POULTRY LEG;RICE CRACKER;1BALL;COOKED RICE;CURRY AND/1;STEAMING BOWL;SPAGHETTI;
     BREAD;FRENCH FRIES;ROASTED SWEET POTATO;DANGO;ODEN;SUSHI;FRIED SHRIMP;
     FISH CAKE WITH SWIRL DESIGN;SOFT ICE CREAM;SHAVED ICE;ICE CREAM;DOUGHNUT;COOKIE;CHOCOLATE BAR;
     CANDY;LOLLIPOP;CUSTARD;HONEY POT;SHORTCAKE;BENTO BOX;POT OF FOOD;COOKING;FORK AND KNIFE;
     TEACUP WITHOUT HANDLE;SAKE BOTTLE AND CUP;WINE GLASS;COCKTAIL/1;TROPICAL DRINK;BEER MUG;
     CLINKING BEER MUGS;BABY BOTTLE;FORK AND KNIFE WITH PLATE;BOTTLE WITH POPPING CORK;POPCORN;
     RIBBON;WRAPPED PRESENT;BIRTHDAY CAKE;JACK-O-LANTERN;CHRISTMAS TREE;FATHER CHRISTMAS;FIREWORKS;
     FIREWORK SPARKLER;BALLOON;PARTY POPPER;CONFETTI BALL;TANABATA TREE;CROSSED FLAGS;
     PINE DECORATION;JAPANESE DOLLS;CARP STREAMER;WIND CHIME;MOON VIEWING CEREMONY;SCHOOL SATCHEL;
     GRADUATION CAP;HEART WITH TIP ON THE LEFT;BOUQUET OF FLOWERS;MILITARY MEDAL;REMINDER RIBBON;
     MUSICAL KEYBOARD WITH JACKS;STUDIO MICROPHONE;LEVEL SLIDER;CONTROL KNOBS;
     BEAMED ASCENDING MUSICAL NOTES;1DESCENDING/2;FILM FRAMES;ADMISSION TICKETS;CAROUSEL HORSE;
     FERRIS WHEEL;ROLLER COASTER;FISHING POLE AND FISH;MICROPHONE;MOVIE CAMERA;CINEMA;HEADPHONE;
     ARTIST PALETTE;TOP HAT;CIRCUS TENT;TICKET;CLAPPER BOARD;PERFORMING ARTS;VIDEO GAME;DIRECT HIT;
     SLOT MACHINE;BILLIARDS;GAME DIE;BOWLING;FLOWER PLAYING CARDS;MUSICAL NOTE;
     MULTIPLE MUSICAL NOTES;SAXOPHONE;GUITAR;MUSICAL KEYBOARD;TRUMPET;VIOLIN;MUSICAL SCORE;
     RUNNING SHIRT WITH SASH;TENNIS RACQUET AND BALL;SKI AND SKI BOOT;BASKETBALL AND HOOP;
     CHEQUERED FLAG;SNOWBOARDER;RUNNER;SURFER;SPORTS MEDAL;TROPHY;HORSE RACING;AMERICAN FOOTBALL;
     RUGBY/1;SWIMMER;WEIGHT LIFTER;GOLFER;RACING MOTORCYCLE;1CAR;CRICKET BAT AND BALL;VOLLEYBALL;
     FIELD HOCKEY STICK AND BALL;ICE HOCKEY STICK AND PUCK;TABLE TENNIS PADDLE AND BALL;
     SNOW CAPPED MOUNTAIN;CAMPING;BEACH WITH UMBRELLA;BUILDING CONSTRUCTION;HOUSE BUILDINGS;
     CITYSCAPE;DERELICT HOUSE BUILDING;CLASSICAL/1;DESERT;1ISLAND;NATIONAL PARK;STADIUM;
     HOUSE BUILDING;1WITH GARDEN;OFFICE BUILDING;JAPANESE POST OFFICE;EUROPEAN/2;HOSPITAL;BANK;
     AUTOMATED TELLER MACHINE;HOTEL;LOVE/1;CONVENIENCE STORE;SCHOOL;DEPARTMENT STORE;FACTORY;
     IZAKAYA LANTERN;JAPANESE CASTLE;EUROPEAN/1;WHITE PENNANT;BLACK/1;WAVING WHITE FLAG;1BLACK/1;
     ROSETTE;BLACK/1;LABEL;BADMINTON RACQUET AND SHUTTLECOCK;BOW AND ARROW;AMPHORA;
     EMOJI MODIFIER FITZPATRICK TYPE-1-2;3TYPE-3;+3"),
   (0x1F400, "RAT;MOUSE;OX;WATER BUFFALO;COW;TIGER;LEOPARD;RABBIT;CAT;DRAGON;CROCODILE;WHALE;SNAIL;
     SNAKE;HORSE;RAM;GOAT;SHEEP;MONKEY;ROOSTER;CHICKEN;DOG;PIG;BOAR;ELEPHANT;OCTOPUS;SPIRAL SHELL;
     BUG;ANT;HONEYBEE;LADY BEETLE;FISH;TROPICAL/1;BLOWFISH;TURTLE;HATCHING CHICK;BABY/1;
     FRONT-FACING/2;BIRD;PENGUIN;KOALA;POODLE;DROMEDARY CAMEL;BACTRIAN/1;DOLPHIN;MOUSE FACE;COW/1;
     TIGER/1;RABBIT/1;CAT/1;DRAGON/1;SPOUTING WHALE;HORSE FACE;MONKEY/1;DOG/1;PIG/1;FROG/1;
     HAMSTER/1;WOLF/1;BEAR/1;PANDA/1;PIG NOSE;PAW PRINTS;CHIPMUNK;EYES;EYE;EAR;NOSE;MOUTH;TONGUE;
     WHITE UP POINTING BACKHAND INDEX;1DOWN/3;1LEFT/3;1RIGHT/3;FISTED HAND SIGN;WAVING/2;OK/2;
     THUMBS UP/1;1DOWN/1;CLAPPING HANDS/1;OPEN/2;CROWN;WOMANS HAT;EYEGLASSES;NECKTIE;T-SHIRT;JEANS;
     DRESS;KIMONO;BIKINI;WOMANS CLOTHES;PURSE;HANDBAG;POUCH;MANS SHOE;ATHLETIC/1;HIGH-HEELED/1;
     WOMANS SANDAL;1BOOTS;FOOTPRINTS;BUST IN SILHOUETTE;BUSTS/2;BOY;GIRL;MAN;WOMAN;FAMILY;
     MAN AND WOMAN HOLDING HANDS;TWO MEN/2;1WOMEN/2;POLICE OFFICER;WOMAN WITH BUNNY EARS;
     BRIDE WITH VEIL;PERSON WITH BLOND HAIR;MAN WITH GUA PI MAO;2TURBAN;OLDER MAN;1WOMAN;BABY;
     CONSTRUCTION WORKER;PRINCESS;JAPANESE OGRE;1GOBLIN;GHOST;BABY ANGEL;EXTRATERRESTRIAL ALIEN;
     ALIEN MONSTER;IMP;SKULL;INFORMATION DESK PERSON;GUARDSMAN;DANCER;LIPSTICK;NAIL POLISH;
     FACE MASSAGE;HAIRCUT;BARBER POLE;SYRINGE;PILL;KISS MARK;LOVE LETTER;RING;GEM STONE;KISS;
     BOUQUET;COUPLE WITH HEART;WEDDING;BEATING HEART;BROKEN/1;TWO HEARTS;SPARKLING HEART;GROWING/1;
     HEART WITH ARROW;BLUE HEART;GREEN/1;YELLOW/1;PURPLE/1;HEART WITH RIBBON;REVOLVING HEARTS;
     HEART DECORATION;DIAMOND SHAPE WITH A DOT INSIDE;ELECTRIC LIGHT BULB;ANGER SYMBOL;BOMB;
     SLEEPING SYMBOL;COLLISION/1;SPLASHING SWEAT/1;DROPLET;DASH SYMBOL;PILE OF POO;FLEXED BICEPS;
     DIZZY SYMBOL;SPEECH BALLOON;THOUGHT/1;WHITE FLOWER;HUNDRED POINTS SYMBOL;MONEY BAG;
     CURRENCY EXCHANGE;HEAVY DOLLAR SIGN;CREDIT CARD;BANKNOTE WITH YEN SIGN;2DOLLAR/1;2EURO/1;
     2POUND/1;MONEY WITH WINGS;CHART WITH UPWARDS TREND AND YEN SIGN;SEAT;PERSONAL COMPUTER;
     BRIEFCASE;MINIDISC;FLOPPY DISK;OPTICAL DISC;DVD;FILE FOLDER;OPEN/2;PAGE WITH CURL;1FACING UP;
     CALENDAR;TEAR-OFF/1;CARD INDEX;CHART WITH UPWARDS TREND;2DOWNWARDS/1;BAR CHART;CLIPBOARD;
     PUSHPIN;ROUND/1;PAPERCLIP;STRAIGHT RULER;TRIANGULAR/1;BOOKMARK TABS;LEDGER;NOTEBOOK;
     1WITH DECORATIVE COVER;CLOSED BOOK;OPEN/1;GREEN/1;BLUE/1;ORANGE/1;BOOKS;NAME BADGE;SCROLL;MEMO;
     TELEPHONE RECEIVER;PAGER;FAX MACHINE;SATELLITE ANTENNA;PUBLIC ADDRESS LOUDSPEAKER;
     CHEERING MEGAPHONE;OUTBOX TRAY;INBOX/1;PACKAGE;E-MAIL SYMBOL;INCOMING ENVELOPE;
     ENVELOPE WITH DOWNWARDS ARROW ABOVE;CLOSED MAILBOX WITH LOWERED FLAG;3RAISED/1;OPEN/4;
     3LOWERED/1;POSTBOX;POSTAL HORN;NEWSPAPER;MOBILE PHONE;2WITH RIGHTWARDS ARROW AT LEFT;
     VIBRATION MODE;MOBILE PHONE OFF;NO MOBILE PHONES;ANTENNA WITH BARS;CAMERA;1WITH FLASH;
     VIDEO CAMERA;TELEVISION;RADIO;VIDEOCASSETTE;FILM PROJECTOR;PORTABLE STEREO;PRAYER BEADS"),
   (0x1F500, "TWISTED RIGHTWARDS ARROWS;CLOCKWISE RIGHTWARDS AND LEFTWARDS OPEN CIRCLE/1;
     7WITH CIRCLED ONE OVERLAY;1DOWNWARDS AND UPWARDS OPEN CIRCLE ARROWS;ANTICLOCKWISE/6;
     LOW BRIGHTNESS SYMBOL;HIGH/2;SPEAKER WITH CANCELLATION STROKE;SPEAKER;1WITH ONE SOUND WAVE;
     2THREE SOUND WAVES;BATTERY;ELECTRIC PLUG;LEFT-POINTING MAGNIFYING GLASS;RIGHT-POINTING/2;
     LOCK WITH INK PEN;CLOSED LOCK WITH KEY;KEY;LOCK;OPEN/1;BELL;1WITH CANCELLATION STROKE;BOOKMARK;
     LINK SYMBOL;RADIO BUTTON;BACK WITH LEFTWARDS ARROW ABOVE;END/4;
     ON WITH EXCLAMATION MARK WITH LEFT RIGHT/2;SOON WITH RIGHTWARDS/2;TOP WITH UPWARDS/2;
     NO ONE UNDER EIGHTEEN SYMBOL;KEYCAP TEN;INPUT SYMBOL FOR LATIN CAPITAL LETTERS;4SMALL/1;
     3NUMBERS;3SYMBOLS;3LATIN LETTERS;FIRE;ELECTRIC TORCH;WRENCH;HAMMER;NUT AND BOLT;HOCHO;PISTOL;
     MICROSCOPE;TELESCOPE;CRYSTAL BALL;SIX POINTED STAR WITH MIDDLE DOT;
     JAPANESE SYMBOL FOR BEGINNER;TRIDENT EMBLEM;BLACK SQUARE BUTTON;WHITE/2;LARGE RED CIRCLE;
     1BLUE/1;1ORANGE DIAMOND;1BLUE/1;SMALL ORANGE/1;1BLUE/1;UP-POINTING RED TRIANGLE;
     DOWN-POINTING/2;UP-POINTING SMALL/2;DOWN-POINTING/3;LOWER RIGHT SHADOWED WHITE CIRCLE;UPPER/4;
     CIRCLED CROSS POMMEE;CROSS POMMEE WITH HALF-CIRCLE BELOW;1POMMEE;
     NOTCHED LEFT SEMICIRCLE WITH THREE DOTS;1RIGHT/4;SYMBOL FOR MARKS CHAPTER;WHITE LATIN CROSS;
     HEAVY/2;CELTIC/1;OM SYMBOL;DOVE OF PEACE;KAABA;MOSQUE;SYNAGOGUE;MENORAH WITH NINE BRANCHES;
     BOWL OF HYGIEIA;CLOCK FACE ONE OCLOCK;2TWO/1;2THREE/1;2FOUR/1;2FIVE/1;2SIX/1;2SEVEN/1;2EIGHT/1;
     2NINE/1;2TEN/1;2ELEVEN/1;2TWELVE/1;2ONE-THIRTY;2TWO-THIRTY;2THREE-THIRTY;2FOUR-THIRTY;
     2FIVE-THIRTY;2SIX-THIRTY;2SEVEN-THIRTY;2EIGHT-THIRTY;2NINE-THIRTY;2TEN-THIRTY;2ELEVEN-THIRTY;
     2TWELVE-THIRTY;RIGHT SPEAKER;2WITH ONE SOUND WAVE;3THREE SOUND WAVES;BULLHORN;
     1WITH SOUND WAVES;RINGING BELL;BOOK;CANDLE;MANTELPIECE CLOCK;BLACK SKULL AND CROSSBONES;
     NO PIRACY;HOLE;MAN IN BUSINESS SUIT LEVITATING;SLEUTH OR SPY;DARK SUNGLASSES;SPIDER;1WEB;
     JOYSTICK;MAN DANCING;LEFT HAND TELEPHONE RECEIVER;TELEPHONE RECEIVER WITH PAGE;
     RIGHT HAND TELEPHONE RECEIVER;WHITE TOUCHTONE TELEPHONE;BLACK/2;TELEPHONE ON TOP OF MODEM;
     CLAMSHELL MOBILE PHONE;BACK OF ENVELOPE;STAMPED/1;ENVELOPE WITH LIGHTNING;FLYING ENVELOPE;
     PEN OVER STAMPED/1;LINKED PAPERCLIPS;BLACK PUSHPIN;LOWER LEFT PENCIL;2BALLPOINT PEN;
     2FOUNTAIN/1;2PAINTBRUSH;2CRAYON;LEFT WRITING HAND;TURNED OK HAND SIGN;
     RAISED HAND WITH FINGERS SPLAYED;REVERSED/5;1THUMBS UP SIGN;2DOWN/1;1VICTORY HAND;
     1HAND WITH MIDDLE FINGER EXTENDED;RAISED HAND WITH PART BETWEEN MIDDLE AND RING FINGERS;
     WHITE DOWN POINTING LEFT HAND INDEX;SIDEWAYS WHITE LEFT POINTING/1;2RIGHT/2;1BLACK LEFT/2;
     2RIGHT/2;BLACK LEFT POINTING BACKHAND/1;1RIGHT/3;SIDEWAYS WHITE UP POINTING/1;2DOWN/2;
     1BLACK UP/2;2DOWN/2;BLACK UP POINTING BACKHAND/1;1DOWN/3;1HEART;DESKTOP COMPUTER;
     KEYBOARD AND MOUSE;THREE NETWORKED COMPUTERS;PRINTER;POCKET CALCULATOR;
     BLACK HARD SHELL FLOPPY DISK;WHITE/4;SOFT/3;TAPE CARTRIDGE;WIRED KEYBOARD;ONE BUTTON MOUSE;
     TWO/2;THREE/2;TRACKBALL;OLD PERSONAL COMPUTER;HARD DISK;SCREEN;PRINTER ICON;FAX/1;
     OPTICAL DISC/1;DOCUMENT WITH TEXT;3AND PICTURE;1WITH/1;FRAME/2;2TILES;2AN X;BLACK FOLDER;
     FOLDER;OPEN/1;CARD INDEX DIVIDERS;1FILE BOX;FILE CABINET;EMPTY NOTE;2PAGE;2PAD;NOTE;1PAGE;1PAD;
     EMPTY DOCUMENT;1PAGE;1PAGES;DOCUMENT;PAGE;PAGES;WASTEBASKET;SPIRAL NOTE PAD;1CALENDAR/1;
     DESKTOP WINDOW;MINIMIZE;MAXIMIZE;OVERLAP;CLOCKWISE RIGHT AND LEFT SEMICIRCLE ARROWS;
     CANCELLATION X;INCREASE FONT SIZE SYMBOL;DECREASE/3;COMPRESSION;OLD KEY;ROLLED-UP NEWSPAPER;
     PAGE WITH CIRCLED TEXT;STOCK CHART;DAGGER KNIFE;LIPS;SPEAKING HEAD IN SILHOUETTE;
     THREE RAYS ABOVE;2BELOW;2LEFT;2RIGHT;LEFT SPEECH BUBBLE;RIGHT/2;TWO SPEECH BUBBLES;THREE/2;
     LEFT THOUGHT BUBBLE;RIGHT/2;LEFT ANGER/1;RIGHT/2;MOOD/1;LIGHTNING/2;1MOOD;
     BALLOT BOX WITH BALLOT;1SCRIPT X;1BOX WITH/2;1BOLD/2;1BOX WITH/3;LIGHT CHECK MARK;
     BALLOT BOX WITH BOLD CHECK;WORLD MAP;MOUNT FUJI;TOKYO TOWER;STATUE OF LIBERTY;
     SILHOUETTE OF JAPAN;MOYAI"),
   (0x1F600, "GRINNING FACE;2WITH SMILING EYES;FACE WITH TEARS OF JOY;SMILING FACE WITH OPEN MOUTH;
     5AND SMILING EYES;6COLD SWEAT;6TIGHTLY-CLOSED EYES;3HALO;3HORNS;WINKING FACE;
     SMILING FACE WITH SMILING EYES;FACE SAVOURING DELICIOUS FOOD;RELIEVED FACE;
     SMILING FACE WITH HEART-SHAPED EYES;3SUNGLASSES;SMIRKING FACE;NEUTRAL/1;EXPRESSIONLESS/1;
     UNAMUSED/1;FACE WITH COLD SWEAT;PENSIVE FACE;CONFUSED/1;CONFOUNDED/1;KISSING/1;
     FACE THROWING A KISS;KISSING FACE WITH SMILING EYES;3CLOSED/1;FACE WITH STUCK-OUT TONGUE;
     4AND WINKING EYE;5TIGHTLY-CLOSED EYES;DISAPPOINTED FACE;WORRIED/1;ANGRY/1;POUTING/1;CRYING/1;
     PERSEVERING/1;FACE WITH LOOK OF TRIUMPH;DISAPPOINTED BUT RELIEVED FACE;
     FROWNING FACE WITH OPEN MOUTH;ANGUISHED FACE;FEARFUL/1;WEARY/1;SLEEPY/1;TIRED/1;GRIMACING/1;
     LOUDLY CRYING/1;FACE WITH OPEN MOUTH;HUSHED FACE;FACE WITH OPEN MOUTH AND COLD SWEAT;
     1SCREAMING IN FEAR;ASTONISHED FACE;FLUSHED/1;SLEEPING/1;DIZZY/1;FACE WITHOUT MOUTH;
     1WITH MEDICAL MASK;GRINNING CAT FACE WITH SMILING EYES;CAT FACE WITH TEARS OF JOY;
     SMILING CAT FACE WITH OPEN MOUTH;4HEART-SHAPED EYES;CAT FACE WITH WRY SMILE;
     KISSING CAT FACE WITH CLOSED EYES;POUTING CAT FACE;CRYING/2;WEARY/2;SLIGHTLY FROWNING/1;
     1SMILING/1;UPSIDE-DOWN/1;FACE WITH ROLLING EYES;2NO GOOD GESTURE;2OK/1;PERSON BOWING DEEPLY;
     SEE-NO-EVIL MONKEY;HEAR-NO-EVIL/1;SPEAK-NO-EVIL/1;HAPPY PERSON RAISING ONE HAND;
     PERSON RAISING BOTH HANDS IN CELEBRATION;1FROWNING;1WITH POUTING FACE;2FOLDED HANDS;
     NORTH WEST POINTING LEAF;SOUTH/3;NORTH EAST/2;SOUTH/3;TURNED NORTH WEST/2;1SOUTH/3;
     1NORTH EAST/2;1SOUTH/3;NORTH WEST POINTING VINE/1;SOUTH/4;NORTH EAST/3;SOUTH/4;
     HEAVY NORTH WEST/3;1SOUTH/4;1NORTH EAST/3;1SOUTH/4;NORTH WEST POINTING BUD;SOUTH/3;
     NORTH EAST/2;SOUTH/3;HEAVY NORTH WEST/2;1SOUTH/3;1NORTH EAST/2;1SOUTH/3;
     HOLLOW QUILT SQUARE ORNAMENT;4IN BLACK SQUARE;SOLID QUILT SQUARE ORNAMENT;4IN BLACK SQUARE;
     LEFTWARDS ROCKET;UPWARDS/1;RIGHTWARDS/1;DOWNWARDS/1;SCRIPT LIGATURE ET ORNAMENT;HEAVY/4;
     LIGATURE OPEN/2;HEAVY/4;1AMPERSAND/1;SWASH/2;
     SANS-SERIF HEAVY DOUBLE TURNED COMMA QUOTATION MARK/1;3COMMA/3;2LOW/5;HEAVY INTERROBANG/1;
     SANS-SERIF/2;HEAVY/3;VERY HEAVY SOLIDUS;2REVERSE/1;CHECKER BOARD;REVERSE/2;ROCKET;HELICOPTER;
     STEAM LOCOMOTIVE;RAILWAY CAR;HIGH-SPEED TRAIN;2WITH BULLET NOSE;TRAIN;METRO;LIGHT RAIL;STATION;
     TRAM;1CAR;BUS;ONCOMING/1;TROLLEYBUS;BUS STOP;MINIBUS;AMBULANCE;FIRE ENGINE;POLICE CAR;
     ONCOMING/2;TAXI;ONCOMING/1;AUTOMOBILE;ONCOMING/1;RECREATIONAL VEHICLE;DELIVERY TRUCK;
     ARTICULATED LORRY;TRACTOR;MONORAIL;MOUNTAIN RAILWAY;SUSPENSION/1;MOUNTAIN CABLEWAY;
     AERIAL TRAMWAY;SHIP;ROWBOAT;SPEEDBOAT;HORIZONTAL TRAFFIC LIGHT;VERTICAL/2;CONSTRUCTION SIGN;
     POLICE CARS REVOLVING LIGHT;TRIANGULAR FLAG ON POST;DOOR;NO ENTRY SIGN;SMOKING SYMBOL;NO/2;
     PUT LITTER IN ITS PLACE/1;DO NOT LITTER/1;POTABLE WATER/1;NON-POTABLE/2;BICYCLE;NO BICYCLES;
     BICYCLIST;MOUNTAIN/1;PEDESTRIAN;NO PEDESTRIANS;CHILDREN CROSSING;MENS SYMBOL;WOMENS/1;RESTROOM;
     BABY SYMBOL;TOILET;WATER CLOSET;SHOWER;BATH;BATHTUB;PASSPORT CONTROL;CUSTOMS;BAGGAGE CLAIM;
     LEFT LUGGAGE;TRIANGLE WITH ROUNDED CORNERS;PROHIBITED SIGN;CIRCLED INFORMATION SOURCE;
     BOYS SYMBOL;GIRLS/1;COUCH AND LAMP;SLEEPING ACCOMMODATION;SHOPPING BAGS;BELLHOP BELL;BED;
     PLACE OF WORSHIP;OCTAGONAL SIGN;SHOPPING TROLLEY;STUPA;PAGODA;HINDU TEMPLE;HUT;ELEVATOR"),
   (0x1F6DD, "PLAYGROUND SLIDE;WHEEL;RING BUOY;HAMMER AND WRENCH;SHIELD;OIL DRUM;MOTORWAY;
     RAILWAY TRACK;MOTOR BOAT;UP-POINTING MILITARY AIRPLANE;1AIRPLANE;1SMALL/1;SMALL/1;
     NORTHEAST-POINTING/1;AIRPLANE DEPARTURE;1ARRIVING"),
   (0x1F6F0, "SATELLITE;ONCOMING FIRE ENGINE;DIESEL LOCOMOTIVE;PASSENGER SHIP;SCOOTER;MOTOR/1;CANOE;
     SLED;FLYING SAUCER;SKATEBOARD;AUTO RICKSHAW;PICKUP TRUCK;ROLLER SKATE"),
   (0x1F700, "ALCHEMICAL SYMBOL FOR QUINTESSENCE;3AIR;3FIRE;3EARTH;3WATER;3AQUAFORTIS;3AQUA REGIA;
     4REGIA-2;4VITAE;4VITAE-2;3VINEGAR;3VINEGAR-2;+1;3SULFUR;3PHILOSOPHERS/1;3BLACK/1;
     3MERCURY SUBLIMATE;4SUBLIMATE-2;+1;3CINNABAR;3SALT;3NITRE;3VITRIOL;3VITRIOL-2;3ROCK SALT;
     4SALT-2;3GOLD;3SILVER;3IRON ORE;4ORE-2;3CROCUS OF IRON;3REGULUS/2;3COPPER ORE;3IRON-COPPER/1;
     3SUBLIMATE OF COPPER;3CROCUS/2;5COPPER-2;3COPPER ANTIMONIATE;3SALT OF/2;
     3SUBLIMATE OF SALT OF COPPER;3VERDIGRIS;3TIN ORE;3LEAD/1;3ANTIMONY/1;3SUBLIMATE OF ANTIMONY;
     3SALT/2;3SUBLIMATE OF/3;3VINEGAR/2;3REGULUS/2;5ANTIMONY-2;3REGULUS;3REGULUS-2;+2;3ALKALI;
     3ALKALI-2;3MARCASITE;3SAL-AMMONIAC;3ARSENIC;3REALGAR;3REALGAR-2;3AURIPIGMENT;3BISMUTH ORE;
     3TARTAR;3TARTAR-2;3QUICK LIME;3BORAX;3BORAX-2;+1;3ALUM;3OIL;3SPIRIT;3TINCTURE;3GUM;3WAX;
     3POWDER;3CALX;3TUTTY;3CAPUT MORTUUM;3SCEPTER OF JOVE;3CADUCEUS;3TRIDENT;3STARRED/1;3LODESTONE;
     3SOAP;3URINE;3HORSE DUNG;3ASHES;3POT/1;3BRICK;3POWDERED/1;3AMALGAM;3STRATUM SUPER STRATUM;
     5STRATUM-2;3SUBLIMATION;3PRECIPITATE;3DISTILL;3DISSOLVE;3DISSOLVE-2;3PURIFY;3PUTREFACTION;
     3CRUCIBLE;3CRUCIBLE-2;+3;3ALEMBIC;3BATH OF MARY;5VAPOURS;3RETORT;3HOUR;3NIGHT;3DAY-NIGHT;
     3MONTH;3HALF DRAM;4OUNCE"),
   (0x1F780, "BLACK LEFT-POINTING ISOSCELES RIGHT TRIANGLE;1UP-POINTING/3;1RIGHT-POINTING/3;
     1DOWN-POINTING/3;1SLIGHTLY SMALL CIRCLE;MEDIUM BOLD WHITE/1;BOLD/2;HEAVY/2;VERY/3;EXTREMELY/3;
     WHITE CIRCLE CONTAINING BLACK SMALL/1;ROUND TARGET;BLACK TINY SQUARE;1SLIGHTLY SMALL/1;
     LIGHT WHITE/1;MEDIUM/2;BOLD/2;HEAVY/2;VERY/3;EXTREMELY/3;
     WHITE SQUARE CONTAINING BLACK VERY SMALL/1;4MEDIUM/1;SQUARE TARGET;BLACK TINY DIAMOND;
     1VERY SMALL/1;1MEDIUM/2;WHITE DIAMOND CONTAINING BLACK VERY/2;4MEDIUM/1;DIAMOND TARGET;
     BLACK TINY LOZENGE;1VERY SMALL/1;1MEDIUM/2;WHITE LOZENGE CONTAINING BLACK/2;THIN GREEK CROSS;
     LIGHT/2;MEDIUM/2;BOLD/2;VERY/3;1HEAVY/2;EXTREMELY/3;THIN SALTIRE;LIGHT/1;MEDIUM/1;BOLD/1;
     HEAVY/1;VERY/2;EXTREMELY/2;LIGHT FIVE SPOKED ASTERISK;MEDIUM/3;BOLD/3;HEAVY/3;VERY/4;
     EXTREMELY/4;LIGHT SIX/2;MEDIUM/3;BOLD/3;HEAVY/3;VERY/4;EXTREMELY/4;LIGHT EIGHT/2;MEDIUM/3;
     BOLD/3;HEAVY/3;VERY/4;LIGHT THREE POINTED BLACK STAR;MEDIUM/4;THREE/3;
     MEDIUM THREE POINTED PINWHEEL/1;LIGHT FOUR POINTED BLACK/1;MEDIUM/4;FOUR/3;
     MEDIUM FOUR POINTED PINWHEEL/1;REVERSE LIGHT/4;LIGHT FIVE POINTED BLACK/1;HEAVY/4;MEDIUM SIX/3;
     HEAVY/4;SIX POINTED PINWHEEL/1;MEDIUM EIGHT POINTED BLACK/1;HEAVY/4;VERY/5;
     HEAVY EIGHT POINTED PINWHEEL/1;LIGHT TWELVE POINTED BLACK/1;HEAVY/4;3PINWHEEL/1;
     CIRCLED TRIANGLE;NEGATIVE/2;CIRCLED SQUARE;NEGATIVE/2"),
   (0x1F7E0, "LARGE ORANGE CIRCLE;1YELLOW/1;1GREEN/1;1PURPLE/1;1BROWN/1;1RED SQUARE;1BLUE/1;
     1ORANGE/1;1YELLOW/1;1GREEN/1;1PURPLE/1;1BROWN/1"),
   (0x1F7F0, "HEAVY EQUALS SIGN"),
   (0x1F800, "LEFTWARDS ARROW WITH SMALL TRIANGLE ARROWHEAD;UPWARDS/5;RIGHTWARDS/5;DOWNWARDS/5;
     LEFTWARDS ARROW WITH MEDIUM/2;UPWARDS/5;RIGHTWARDS/5;DOWNWARDS/5;LEFTWARDS ARROW WITH LARGE/2;
     UPWARDS/5;RIGHTWARDS/5;DOWNWARDS/5"),
   (0x1F810, "LEFTWARDS ARROW WITH SMALL EQUILATERAL ARROWHEAD;UPWARDS/5;RIGHTWARDS/5;DOWNWARDS/5;
     LEFTWARDS ARROW WITH/2;UPWARDS/4;RIGHTWARDS/4;DOWNWARDS/4;HEAVY LEFTWARDS/4;1UPWARDS/4;
     1RIGHTWARDS/4;1DOWNWARDS/4;1LEFTWARDS ARROW WITH LARGE/2;1UPWARDS/5;1RIGHTWARDS/5;1DOWNWARDS/5;
     LEFTWARDS TRIANGLE-HEADED ARROW WITH NARROW SHAFT;UPWARDS/5;RIGHTWARDS/5;DOWNWARDS/5;
     LEFTWARDS TRIANGLE-HEADED ARROW WITH MEDIUM/1;UPWARDS/5;RIGHTWARDS/5;DOWNWARDS/5;
     LEFTWARDS TRIANGLE-HEADED ARROW WITH BOLD/1;UPWARDS/5;RIGHTWARDS/5;DOWNWARDS/5;
     LEFTWARDS TRIANGLE-HEADED ARROW WITH HEAVY/1;UPWARDS/5;RIGHTWARDS/5;DOWNWARDS/5;
     LEFTWARDS TRIANGLE-HEADED ARROW WITH VERY/2;UPWARDS/6;RIGHTWARDS/6;DOWNWARDS/6;
     LEFTWARDS FINGER-POST ARROW;UPWARDS/2;RIGHTWARDS/2;DOWNWARDS/2;LEFTWARDS SQUARED/1;UPWARDS/2;
     RIGHTWARDS/2;DOWNWARDS/2;LEFTWARDS COMPRESSED/1;UPWARDS/2;RIGHTWARDS/2;DOWNWARDS/2;
     LEFTWARDS HEAVY/2;UPWARDS/3;RIGHTWARDS/3;DOWNWARDS/3;LEFTWARDS HEAVY/1;UPWARDS/2;RIGHTWARDS/2;
     DOWNWARDS/2"),
   (0x1F850, "LEFTWARDS SANS-SERIF ARROW;UPWARDS/2;RIGHTWARDS/2;DOWNWARDS/2;NORTH WEST/2;1EAST/2;
     SOUTH/3;1WEST/2;LEFT RIGHT/2;UP DOWN/2"),
   (0x1F860, "WIDE-HEADED LEFTWARDS LIGHT BARB ARROW;1UPWARDS/3;1RIGHTWARDS/3;1DOWNWARDS/3;
     1NORTH WEST/3;2EAST/3;1SOUTH/4;2WEST/3;1LEFTWARDS/2;1UPWARDS/2;1RIGHTWARDS/2;1DOWNWARDS/2;
     1NORTH WEST/2;2EAST/2;1SOUTH/3;2WEST/2;1LEFTWARDS MEDIUM/2;1UPWARDS/3;1RIGHTWARDS/3;
     1DOWNWARDS/3;1NORTH WEST/3;2EAST/3;1SOUTH/4;2WEST/3;1LEFTWARDS HEAVY/2;1UPWARDS/3;
     1RIGHTWARDS/3;1DOWNWARDS/3;1NORTH WEST/3;2EAST/3;1SOUTH/4;2WEST/3;1LEFTWARDS VERY/3;1UPWARDS/4;
     1RIGHTWARDS/4;1DOWNWARDS/4;1NORTH WEST/4;2EAST/4;1SOUTH/5;2WEST/4"),
   (0x1F890, "LEFTWARDS TRIANGLE ARROWHEAD;UPWARDS/2;RIGHTWARDS/2;DOWNWARDS/2;
     LEFTWARDS WHITE ARROW WITHIN/2;UPWARDS/5;RIGHTWARDS/5;DOWNWARDS/5;
     LEFTWARDS ARROW WITH NOTCHED TAIL;UPWARDS/4;RIGHTWARDS/4;DOWNWARDS/4;
     HEAVY ARROW SHAFT WIDTH ONE;4TWO THIRDS;4ONE HALF;5THIRD;LEFTWARDS BOTTOM-SHADED WHITE ARROW;
     RIGHTWARDS BOTTOM SHADED/2;LEFTWARDS TOP/3;RIGHTWARDS/4;LEFTWARDS LEFT-SHADED/2;
     RIGHTWARDS RIGHT-SHADED/2;LEFTWARDS/3;RIGHTWARDS LEFT-SHADED/2;
     LEFTWARDS BACK-TILTED SHADOWED/2;RIGHTWARDS/4;LEFTWARDS FRONT-TILTED/3;RIGHTWARDS/4;
     WHITE ARROW SHAFT WIDTH ONE;4TWO THIRDS"),
   (0x1F8B0, "ARROW POINTING UPWARDS THEN NORTH WEST;2RIGHTWARDS THEN CURVING SOUTH/1"),
   (0x1F900, "CIRCLED CROSS FORMEE WITH FOUR DOTS;4TWO/1;2FORMEE;LEFT HALF CIRCLE WITH FOUR DOTS;
     4THREE/1;4TWO/1;4DOT;2CIRCLE;DOWNWARD FACING HOOK;2NOTCHED/1;2HOOK WITH DOT;2NOTCHED/3;
     PINCHED FINGERS;WHITE HEART;BROWN/1;PINCHING HAND;ZIPPER-MOUTH FACE;MONEY-MOUTH/1;
     FACE WITH THERMOMETER;NERD FACE;THINKING/1;FACE WITH HEAD-BANDAGE;ROBOT FACE;HUGGING/1;
     SIGN OF THE HORNS;CALL ME HAND;RAISED BACK OF/1;LEFT-FACING FIST;RIGHT-FACING/1;HANDSHAKE;
     HAND WITH INDEX AND MIDDLE FINGERS CROSSED;I LOVE YOU HAND SIGN;FACE WITH COWBOY HAT;
     CLOWN FACE;NAUSEATED/1;ROLLING ON THE FLOOR LAUGHING;DROOLING FACE;LYING/1;FACE PALM;
     SNEEZING FACE;FACE WITH ONE EYEBROW RAISED;GRINNING FACE WITH STAR EYES;
     3ONE LARGE AND ONE SMALL EYE;FACE WITH FINGER COVERING CLOSED LIPS;
     SERIOUS FACE WITH SYMBOLS COVERING MOUTH;SMILING FACE WITH SMILING EYES AND HAND/2;
     FACE WITH OPEN MOUTH VOMITING;SHOCKED FACE WITH EXPLODING HEAD;PREGNANT WOMAN;BREAST-FEEDING;
     PALMS UP TOGETHER;SELFIE;PRINCE;MAN IN TUXEDO;MOTHER CHRISTMAS;SHRUG;PERSON DOING CARTWHEEL;
     JUGGLING;FENCER;MODERN PENTATHLON;WRESTLERS;WATER POLO;HANDBALL;DIVING MASK;WILTED FLOWER;
     DRUM WITH DRUMSTICKS;CLINKING GLASSES;TUMBLER GLASS;SPOON;GOAL NET;RIFLE;FIRST PLACE MEDAL;
     SECOND/2;THIRD/2;BOXING GLOVE;MARTIAL ARTS UNIFORM;CURLING STONE;LACROSSE STICK AND BALL;
     SOFTBALL;FLYING DISC;CROISSANT;AVOCADO;CUCUMBER;BACON;POTATO;CARROT;BAGUETTE BREAD;GREEN SALAD;
     SHALLOW PAN OF FOOD;STUFFED FLATBREAD;EGG;GLASS OF MILK;PEANUTS;KIWIFRUIT;PANCAKES;DUMPLING;
     FORTUNE COOKIE;TAKEOUT BOX;CHOPSTICKS;BOWL WITH SPOON;CUP WITH STRAW;COCONUT;BROCCOLI;PIE;
     PRETZEL;CUT OF MEAT;SANDWICH;CANNED FOOD;LEAFY GREEN;MANGO;MOON CAKE;BAGEL;
     SMILING FACE WITH SMILING EYES AND THREE HEARTS;YAWNING FACE;SMILING FACE WITH TEAR;
     FACE WITH PARTY HORN AND PARTY HAT;2UNEVEN EYES AND WAVY MOUTH;OVERHEATED FACE;FREEZING/1;
     NINJA;DISGUISED FACE;FACE HOLDING BACK TEARS;1WITH PLEADING EYES;SARI;LAB COAT;GOGGLES;
     HIKING BOOT;FLAT SHOE;CRAB;LION FACE;SCORPION;TURKEY;UNICORN FACE;EAGLE;DUCK;BAT;SHARK;OWL;
     FOX FACE;BUTTERFLY;DEER;GORILLA;LIZARD;RHINOCEROS;SHRIMP;SQUID;GIRAFFE FACE;ZEBRA/1;HEDGEHOG;
     SAUROPOD;T-REX;CRICKET;KANGAROO;LLAMA;PEACOCK;HIPPOPOTAMUS;PARROT;RACCOON;LOBSTER;MOSQUITO;
     MICROBE;BADGER;SWAN;MAMMOTH;DODO;SLOTH;OTTER;ORANGUTAN;SKUNK;FLAMINGO;OYSTER;BEAVER;BISON;SEAL;
     GUIDE DOG;PROBING CANE;EMOJI COMPONENT RED HAIR;2CURLY/1;2BALD;2WHITE HAIR;BONE;LEG;FOOT;TOOTH;
     SUPERHERO;SUPERVILLAIN;SAFETY VEST;EAR WITH HEARING AID;MOTORIZED WHEELCHAIR;MANUAL/1;
     MECHANICAL ARM;1LEG;CHEESE WEDGE;CUPCAKE;SALT SHAKER;BEVERAGE BOX;GARLIC;ONION;FALAFEL;WAFFLE;
     BUTTER;MATE DRINK;ICE CUBE;BUBBLE TEA;TROLL;STANDING PERSON;KNEELING/1;DEAF/1;
     FACE WITH MONOCLE;ADULT;CHILD;OLDER ADULT;BEARDED PERSON;PERSON WITH HEADSCARF;1IN STEAMY ROOM;
     1CLIMBING;1IN LOTUS POSITION;MAGE;FAIRY;VAMPIRE;MERPERSON;ELF;GENIE;ZOMBIE;BRAIN;ORANGE HEART;
     BILLED CAP;SCARF;GLOVES;COAT;SOCKS;RED GIFT ENVELOPE;FIRECRACKER;JIGSAW PUZZLE PIECE;TEST TUBE;
     PETRI DISH;DNA DOUBLE HELIX;COMPASS;ABACUS;FIRE EXTINGUISHER;TOOLBOX;BRICK;MAGNET;LUGGAGE;
     LOTION BOTTLE;SPOOL OF THREAD;BALL OF YARN;SAFETY PIN;TEDDY BEAR;BROOM;BASKET;ROLL OF PAPER;
     BAR OF SOAP;SPONGE;RECEIPT;NAZAR AMULET"),
   (0x1FA00, "NEUTRAL CHESS KING;2QUEEN;2ROOK;2BISHOP;2KNIGHT;2PAWN;
     WHITE CHESS KNIGHT ROTATED FORTY-FIVE DEGREES;BLACK/5;NEUTRAL/5;
     WHITE CHESS KING ROTATED NINETY/1;2QUEEN/3;2ROOK/3;2BISHOP/3;2KNIGHT/3;2PAWN/3;
     BLACK CHESS KING/3;2QUEEN/3;2ROOK/3;2BISHOP/3;2KNIGHT/3;2PAWN/3;NEUTRAL CHESS KING/3;2QUEEN/3;
     2ROOK/3;2BISHOP/3;2KNIGHT/3;2PAWN/3;WHITE CHESS KNIGHT ROTATED ONE HUNDRED THIRTY-FIVE/1;
     BLACK/7;NEUTRAL/7;WHITE CHESS TURNED KING;3QUEEN;3ROOK;3BISHOP;3KNIGHT;3PAWN;
     BLACK CHESS TURNED KING;3QUEEN;3ROOK;3BISHOP;3KNIGHT;3PAWN;NEUTRAL CHESS TURNED KING;3QUEEN;
     3ROOK;3BISHOP;3KNIGHT;3PAWN;WHITE CHESS KNIGHT ROTATED TWO HUNDRED TWENTY-FIVE DEGREES;BLACK/7;
     NEUTRAL/7;WHITE CHESS KING ROTATED TWO HUNDRED SEVENTY/1;2QUEEN/5;2ROOK/5;2BISHOP/5;2KNIGHT/5;
     2PAWN/5;BLACK CHESS KING/5;2QUEEN/5;2ROOK/5;2BISHOP/5;2KNIGHT/5;2PAWN/5;NEUTRAL CHESS KING/5;
     2QUEEN/5;2ROOK/5;2BISHOP/5;2KNIGHT/5;2PAWN/5;
     WHITE CHESS KNIGHT ROTATED THREE HUNDRED FIFTEEN/1;BLACK/7;NEUTRAL/7;WHITE CHESS EQUIHOPPER;
     BLACK/2;NEUTRAL/2;WHITE CHESS EQUIHOPPER ROTATED NINETY DEGREES;BLACK/5;NEUTRAL/5;
     WHITE CHESS KNIGHT-QUEEN;2KNIGHT-ROOK;2KNIGHT-BISHOP;BLACK CHESS KNIGHT-QUEEN;2KNIGHT-ROOK;
     2KNIGHT-BISHOP"),
   (0x1FA60, "XIANGQI RED GENERAL;2MANDARIN;2ELEPHANT;2HORSE;2CHARIOT;2CANNON;2SOLDIER;
     1BLACK GENERAL;2MANDARIN;2ELEPHANT;2HORSE;2CHARIOT;2CANNON;2SOLDIER"),
   (0x1FA70, "BALLET SHOES;ONE-PIECE SWIMSUIT;BRIEFS;SHORTS;THONG SANDAL"),
   (0x1FA78, "DROP OF BLOOD;ADHESIVE BANDAGE;STETHOSCOPE;X-RAY;CRUTCH"),
   (0x1FA80, "YO-YO;KITE;PARACHUTE;BOOMERANG;MAGIC WAND;PINATA;NESTING DOLLS"),
   (0x1FA90, "RINGED PLANET;CHAIR;RAZOR;AXE;DIYA LAMP;BANJO;MILITARY HELMET;ACCORDION;LONG DRUM;
     COIN;CARPENTRY SAW;SCREWDRIVER;LADDER;HOOK;MIRROR;WINDOW;PLUNGER;SEWING NEEDLE;KNOT;BUCKET;
     MOUSE TRAP;TOOTHBRUSH;HEADSTONE;PLACARD;ROCK;MIRROR BALL;IDENTIFICATION CARD;LOW BATTERY;
     HAMSA"),
   (0x1FAB0, "FLY;WORM;BEETLE;COCKROACH;POTTED PLANT;WOOD;FEATHER;LOTUS;CORAL;EMPTY NEST;
     NEST WITH EGGS"),
   (0x1FAC0, "ANATOMICAL HEART;LUNGS;PEOPLE HUGGING;PREGNANT MAN;1PERSON;PERSON WITH CROWN"),
   (0x1FAD0, "BLUEBERRIES;BELL PEPPER;OLIVE;FLATBREAD;TAMALE;FONDUE;TEAPOT;POURING LIQUID;BEANS;
     JAR"),
   (0x1FAE0, "MELTING FACE;SALUTING/1;FACE WITH OPEN EYES AND HAND OVER MOUTH;2PEEKING EYE;
     2DIAGONAL MOUTH;DOTTED LINE FACE;BITING LIP;BUBBLES"),
   (0x1FAF0, "HAND WITH INDEX FINGER AND THUMB CROSSED;RIGHTWARDS HAND;LEFTWARDS/1;PALM DOWN/1;
     1UP/1;INDEX POINTING AT THE VIEWER;HEART HANDS"),
   (0x1FB00, "BLOCK SEXTANT-1;+1;1SEXTANT-12;1SEXTANT-3;1SEXTANT-13;1SEXTANT-23;1SEXTANT-123;
     1SEXTANT-4;1SEXTANT-14;1SEXTANT-24;1SEXTANT-124;1SEXTANT-34;1SEXTANT-134;1SEXTANT-234;
     1SEXTANT-1234;1SEXTANT-5;1SEXTANT-15;1SEXTANT-25;1SEXTANT-125;1SEXTANT-35;1SEXTANT-235;
     1SEXTANT-1235;1SEXTANT-45;1SEXTANT-145;1SEXTANT-245;1SEXTANT-1245;1SEXTANT-345;1SEXTANT-1345;
     1SEXTANT-2345;1SEXTANT-12345;1SEXTANT-6;1SEXTANT-16;1SEXTANT-26;1SEXTANT-126;1SEXTANT-36;
     1SEXTANT-136;1SEXTANT-236;1SEXTANT-1236;1SEXTANT-46;1SEXTANT-146;1SEXTANT-1246;1SEXTANT-346;
     1SEXTANT-1346;1SEXTANT-2346;1SEXTANT-12346;1SEXTANT-56;1SEXTANT-156;1SEXTANT-256;1SEXTANT-1256;
     1SEXTANT-356;1SEXTANT-1356;1SEXTANT-2356;1SEXTANT-12356;1SEXTANT-456;1SEXTANT-1456;
     1SEXTANT-2456;1SEXTANT-12456;1SEXTANT-3456;1SEXTANT-13456;1SEXTANT-23456;
     LOWER LEFT BLOCK DIAGONAL LOWER MIDDLE LEFT TO LOWER CENTRE;9RIGHT;
     4UPPER MIDDLE LEFT TO LOWER CENTRE;9RIGHT;5LEFT TO LOWER CENTRE;
     1RIGHT BLOCK DIAGONAL UPPER MIDDLE LEFT TO UPPER/1;9RIGHT;4LOWER MIDDLE LEFT TO UPPER CENTRE;
     9RIGHT;5LEFT TO UPPER CENTRE;5MIDDLE LEFT TO UPPER MIDDLE RIGHT;5CENTRE TO LOWER/2;5LEFT/4;
     5CENTRE TO UPPER/2;5LEFT/4;5CENTRE TO UPPER/1;
     1LEFT BLOCK DIAGONAL UPPER CENTRE TO UPPER MIDDLE/1;5LEFT/4;5CENTRE TO LOWER/2;5LEFT/4;
     5CENTRE TO LOWER/1;5MIDDLE LEFT TO LOWER MIDDLE/1;
     UPPER RIGHT BLOCK DIAGONAL LOWER MIDDLE LEFT TO LOWER CENTRE;9RIGHT;
     4UPPER MIDDLE LEFT TO LOWER CENTRE;9RIGHT;5LEFT TO LOWER CENTRE;
     1LEFT BLOCK DIAGONAL UPPER MIDDLE LEFT TO UPPER/1;9RIGHT;4LOWER MIDDLE LEFT TO UPPER CENTRE;
     9RIGHT;5LEFT TO UPPER CENTRE;5MIDDLE LEFT TO UPPER MIDDLE RIGHT;5CENTRE TO LOWER/2;5LEFT/4;
     5CENTRE TO UPPER/2;5LEFT/4;5CENTRE TO UPPER/1;
     1RIGHT BLOCK DIAGONAL UPPER CENTRE TO UPPER MIDDLE/1;5LEFT/4;5CENTRE TO LOWER/2;5LEFT/4;
     5CENTRE TO LOWER/1;5MIDDLE LEFT TO LOWER MIDDLE/1;
     1AND RIGHT AND LOWER TRIANGULAR THREE QUARTERS BLOCK;LEFT AND LOWER AND RIGHT/4;
     UPPER AND LEFT AND LOWER/4;LEFT AND UPPER AND RIGHT/4;1TRIANGULAR ONE QUARTER/1;UPPER/4;
     RIGHT/4;LOWER/4;VERTICAL ONE EIGHTH BLOCK-2;+5;HORIZONTAL ONE EIGHTH BLOCK-2;+5;
     LEFT AND LOWER ONE EIGHTH BLOCK;2UPPER/3;RIGHT/5;2LOWER/3;UPPER/5;
     HORIZONTAL ONE EIGHTH BLOCK-1358;UPPER ONE QUARTER BLOCK;1THREE EIGHTHS/1;1FIVE/2;
     1THREE QUARTERS/1;1SEVEN EIGHTHS/1;RIGHT ONE QUARTER/1;1THREE EIGHTHS/1;1FIVE/2;
     1THREE QUARTERS/1;1SEVEN EIGHTHS/1;LEFT HALF MEDIUM SHADE;RIGHT/3;UPPER/3;LOWER/3;INVERSE/2;
     UPPER HALF BLOCK AND LOWER HALF/3;2INVERSE MEDIUM SHADE AND LOWER HALF BLOCK"),
   (0x1FB94, "LEFT HALF INVERSE MEDIUM SHADE AND RIGHT HALF BLOCK;CHECKER BOARD FILL;INVERSE/3;
     HEAVY HORIZONTAL/1;UPPER LEFT TO LOWER RIGHT/1;1RIGHT TO LOWER LEFT/1;
     1AND LOWER TRIANGULAR HALF BLOCK;LEFT AND RIGHT/3;UPPER LEFT TRIANGULAR MEDIUM SHADE;1RIGHT/3;
     LOWER/4;1LEFT/3;BOX DRAWINGS LIGHT DIAGONAL UPPER CENTRE TO MIDDLE LEFT;8RIGHT;
     4MIDDLE LEFT TO LOWER CENTRE;5RIGHT/3;4UPPER CENTRE TO MIDDLE LEFT/3;8RIGHT/3;
     4MIDDLE LEFT TO LOWER CENTRE TO MIDDLE RIGHT;7UPPER/4;
     4UPPER CENTRE TO MIDDLE LEFT AND MIDDLE RIGHT TO LOWER CENTRE;8RIGHT AND MIDDLE LEFT/3;
     9TO LOWER CENTRE TO MIDDLE LEFT;8LEFT TO LOWER CENTRE TO MIDDLE RIGHT;
     4MIDDLE LEFT TO UPPER CENTRE TO MIDDLE RIGHT TO LOWER CENTRE;
     5RIGHT TO UPPER CENTRE TO MIDDLE LEFT/3;4DIAMOND;3HORIZONTAL WITH VERTICAL STROKE;
     ARROWHEAD-SHAPED POINTER;INVERSE CHECK MARK;LEFT HALF RUNNING MAN;RIGHT/3;
     INVERSE DOWNWARDS ARROW WITH TIP LEFTWARDS;
     LEFTWARDS ARROW AND UPPER AND LOWER ONE EIGHTH BLOCK;RIGHTWARDS/8;DOWNWARDS ARROW AND RIGHT/3;
     UPWARDS/6;LEFT HALF FOLDER;RIGHT/2;VOIDED GREEK CROSS;RIGHT OPEN SQUARED DOT;
     NEGATIVE DIAGONAL CROSS;2MIDDLE RIGHT TO LOWER CENTRE;2DIAMOND;
     WHITE HEAVY SALTIRE WITH ROUNDED CORNERS;LEFT THIRD WHITE RIGHT POINTING INDEX;MIDDLE/5;
     RIGHT/5;NEGATIVE SQUARED QUESTION MARK;STICK FIGURE;2WITH ARMS RAISED;2LEANING LEFT;3RIGHT;
     2WITH DRESS;WHITE UP-POINTING CHEVRON"),
   (0x1FBF0, "SEGMENTED DIGIT ZERO;2ONE;2TWO;2THREE;2FOUR;2FIVE;2SIX;2SEVEN;2EIGHT;2NINE"),
   (0xE0001, "LANGUAGE TAG"),
   (0xE0020, "TAG SPACE;1EXCLAMATION MARK;1QUOTATION/1;1NUMBER SIGN;1DOLLAR/1;1PERCENT/1;1AMPERSAND;
     1APOSTROPHE;1LEFT PARENTHESIS;1RIGHT/1;1ASTERISK;1PLUS SIGN;1COMMA;1HYPHEN-MINUS;1FULL STOP;
     1SOLIDUS;1DIGIT ZERO;2ONE;2TWO;2THREE;2FOUR;2FIVE;2SIX;2SEVEN;2EIGHT;2NINE;1COLON;1SEMICOLON;
     1LESS-THAN SIGN;1EQUALS/1;1GREATER-THAN/1;1QUESTION MARK;1COMMERCIAL AT;
     1LATIN CAPITAL LETTER A;+25;1LEFT SQUARE BRACKET;1REVERSE SOLIDUS;1RIGHT SQUARE BRACKET;
     1CIRCUMFLEX ACCENT;1LOW LINE;1GRAVE ACCENT;1LATIN SMALL LETTER A;+25;1LEFT CURLY BRACKET;
     1VERTICAL LINE;1RIGHT CURLY BRACKET;1TILDE;CANCEL TAG"),
   (0xE0100, "VARIATION SELECTOR-17;+239")]

/-- Names of control characters, abbreviations, and corrections of other names. -/
def aliasRuns : List (Nat × String) :=
  [(0x0, "NULL;START OF HEADING;2TEXT;END/2;2TRANSMISSION;ENQUIRY;ACKNOWLEDGE;ALERT;BACKSPACE;
     CHARACTER TABULATION;LINE FEED;1TABULATION;FORM FEED;CARRIAGE RETURN;SHIFT OUT;1IN;
     DATA LINK ESCAPE;DEVICE CONTROL ONE;2TWO;2THREE;2FOUR;NEGATIVE ACKNOWLEDGE;SYNCHRONOUS IDLE;
     END OF TRANSMISSION BLOCK;CANCEL;END OF MEDIUM;SUBSTITUTE;ESCAPE;INFORMATION SEPARATOR FOUR;
     2THREE;2TWO;2ONE;SP"),
   (0x7F, "DELETE;PADDING CHARACTER;HIGH OCTET PRESET;BREAK PERMITTED HERE;NO BREAK/1;INDEX;
     NEXT LINE;START OF SELECTED AREA;END/3;CHARACTER TABULATION SET;2WITH JUSTIFICATION;
     LINE TABULATION SET;PARTIAL LINE FORWARD;2BACKWARD;REVERSE LINE FEED;SINGLE SHIFT TWO;2THREE;
     DEVICE CONTROL STRING;PRIVATE USE ONE;2TWO;SET TRANSMIT STATE;CANCEL CHARACTER;MESSAGE WAITING;
     START OF GUARDED AREA;END/3;START OF STRING;SINGLE GRAPHIC CHARACTER INTRODUCER;SINGLE/2;
     CONTROL SEQUENCE/1;STRING TERMINATOR;OPERATING SYSTEM COMMAND;PRIVACY MESSAGE;
     APPLICATION PROGRAM COMMAND;NBSP"),
   (0xAD, "SHY"),
   (0x1A2, "LATIN CAPITAL LETTER GHA;1SMALL/2"),
   (0x34F, "CGJ"),
   (0x61C, "ALM"),
   (0x709, "SYRIAC SUBLINEAR COLON SKEWED LEFT"),
   (0xCDE, "KANNADA LETTER LLLA"),
   (0xE9D, "LAO LETTER FO FON"),
   (0xE9F, "LAO LETTER FO FAY"),
   (0xEA3, "LAO LETTER RO"),
   (0xEA5, "LAO LETTER LO"),
   (0xFD0, "TIBETAN MARK BKA- SHOG GI MGO RGYAN"),
   (0x11EC, "HANGUL JONGSEONG YESIEUNG-KIYEOK;2YESIEUNG-SSANGKIYEOK;2SSANGYESIEUNG;
     2YESIEUNG-KHIEUKH"),
   (0x180B, "FVS1;+2;MVS;FVS4"),
   (0x200B, "ZWSP;ZWNJ;ZWJ;LRM;RLM"),
   (0x202A, "LRE;RLE;PDF;LRO;RLO;NNBSP"),
   (0x205F, "MMSP;WJ"),
   (0x2066, "LRI;RLI;FSI;PDI"),
   (0x2118, "WEIERSTRASS ELLIPTIC FUNCTION"),
   (0x2448, "MICR ON US SYMBOL;1DASH/1"),
   (0x2B7A, "LEFTWARDS TRIANGLE-HEADED ARROW WITH DOUBLE VERTICAL STROKE"),
   (0x2B7C, "RIGHTWARDS TRIANGLE-HEADED ARROW WITH DOUBLE VERTICAL STROKE"),
   (0xA015, "YI SYLLABLE ITERATION MARK"),
   (0xAA6E, "MYANMAR LETTER KHAMTI LLA"),
   (0xFE00, "VS1;+15"),
   (0xFE18, "PRESENTATION FORM FOR VERTICAL RIGHT WHITE LENTICULAR BRACKET"),
   (0xFEFF, "BYTE ORDER MARK"),
   (0x122D4, "CUNEIFORM SIGN NU11 TENU;3OVER NU11 BUR OVER BUR"),
   (0x16E56, "MEDEFAIDRIN CAPITAL LETTER H;3NG"),
   (0x16E76, "MEDEFAIDRIN SMALL LETTER H;3NG"),
   (0x1B001, "HENTAIGANA LETTER E-1"),
   (0x1D0C5, "BYZANTINE MUSICAL SYMBOL FTHORA SKLIRON CHROMA VASIS"),
   (0xE0100, "VS17;+239"),
   (0x0, "NUL;SOH;STX;ETX;EOT;ENQ;ACK;BEL;BS;HORIZONTAL TABULATION;NEW LINE;VERTICAL TABULATION;FF;
     CR;LOCKING-SHIFT ONE;1ZERO;DLE;DC1;+3;NAK;SYN;ETB;CAN;EOM;SUB;ESC;FILE SEPARATOR;GROUP/1;
     RECORD/1;UNIT/1"),
   (0x7F, "DEL;PAD;HOP;BPH;NBH;IND;NEL;SSA;ESA;HORIZONTAL TABULATION SET;2WITH JUSTIFICATION;
     VERTICAL TABULATION SET;PARTIAL LINE DOWN;2UP;REVERSE INDEX;SINGLE-SHIFT-2;+1;DCS;
     PRIVATE USE-1;+1;STS;CCH;MW;START OF PROTECTED AREA;END/3;SOS;SGC;SCI;CSI;ST;OSC;PM;APC"),
   (0xFEFF, "BOM"),
   (0x9, "HT;END OF LINE;VT"),
   (0xE, "SO;SI"),
   (0x1C, "FS;GS;RS;US"),
   (0x88, "HTS;HTJ;VTS;PLD;PLU;RI;SS2;+1"),
   (0x91, "PU1;+1"),
   (0x96, "SPA;EPA"),
   (0xFEFF, "ZWNBSP"),
   (0x9, "TAB;LF"),
   (0xA, "NL"),
   (0xA, "EOL")]

end MaximalMunch.CharacterName
