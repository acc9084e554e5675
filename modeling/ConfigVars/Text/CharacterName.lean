import ConfigVars.Text.Ranges

/-!
# Names of characters

Characters may be given by their standard names (`characterNames`), in capital or small letters.
The list holds the control characters under their usual names, letters and digits of some scripts,
punctuation, and a choice of signs; the ideographs are named by their numbers (`ideograph?`).
-/

namespace ConfigVars.Text

/-- Names of characters with their code points. -/
def characterNames : List (String × Nat) :=
  [
   ("NUL", 0x0), ("NULL", 0x0), ("START OF HEADING", 0x1), ("START OF TEXT", 0x2),
   ("END OF TEXT", 0x3), ("END OF TRANSMISSION", 0x4), ("ENQUIRY", 0x5), ("ACKNOWLEDGE", 0x6),
   ("ALERT", 0x7), ("BEL", 0x7), ("BACKSPACE", 0x8), ("CHARACTER TABULATION", 0x9),
   ("HORIZONTAL TABULATION", 0x9), ("HT", 0x9), ("TAB", 0x9), ("END OF LINE", 0xa), ("EOL", 0xa),
   ("LF", 0xa), ("LINE FEED", 0xa), ("NEW LINE", 0xa), ("NL", 0xa), ("LINE TABULATION", 0xb),
   ("VERTICAL TABULATION", 0xb), ("VT", 0xb), ("FF", 0xc), ("FORM FEED", 0xc),
   ("CARRIAGE RETURN", 0xd), ("CR", 0xd), ("SUBSTITUTE", 0x1a), ("ESC", 0x1b), ("ESCAPE", 0x1b),
   ("FILE SEPARATOR", 0x1c), ("FS", 0x1c), ("INFORMATION SEPARATOR FOUR", 0x1c),
   ("GROUP SEPARATOR", 0x1d), ("GS", 0x1d), ("INFORMATION SEPARATOR THREE", 0x1d),
   ("INFORMATION SEPARATOR TWO", 0x1e), ("RECORD SEPARATOR", 0x1e), ("RS", 0x1e),
   ("INFORMATION SEPARATOR ONE", 0x1f), ("UNIT SEPARATOR", 0x1f), ("US", 0x1f), ("SP", 0x20),
   ("SPACE", 0x20), ("EXCLAMATION MARK", 0x21), ("QUOTATION MARK", 0x22), ("NUMBER SIGN", 0x23),
   ("DOLLAR SIGN", 0x24), ("PERCENT SIGN", 0x25), ("AMPERSAND", 0x26), ("APOSTROPHE", 0x27),
   ("LEFT PARENTHESIS", 0x28), ("RIGHT PARENTHESIS", 0x29), ("ASTERISK", 0x2a), ("PLUS SIGN", 0x2b),
   ("COMMA", 0x2c), ("HYPHEN-MINUS", 0x2d), ("FULL STOP", 0x2e), ("SOLIDUS", 0x2f),
   ("DIGIT ZERO", 0x30), ("DIGIT ONE", 0x31), ("DIGIT TWO", 0x32), ("DIGIT THREE", 0x33),
   ("DIGIT FOUR", 0x34), ("DIGIT FIVE", 0x35), ("DIGIT SIX", 0x36), ("DIGIT SEVEN", 0x37),
   ("DIGIT EIGHT", 0x38), ("DIGIT NINE", 0x39), ("COLON", 0x3a), ("SEMICOLON", 0x3b),
   ("LESS-THAN SIGN", 0x3c), ("EQUALS SIGN", 0x3d), ("GREATER-THAN SIGN", 0x3e),
   ("QUESTION MARK", 0x3f), ("COMMERCIAL AT", 0x40), ("LATIN CAPITAL LETTER A", 0x41),
   ("LATIN CAPITAL LETTER B", 0x42), ("LATIN CAPITAL LETTER C", 0x43),
   ("LATIN CAPITAL LETTER D", 0x44), ("LATIN CAPITAL LETTER E", 0x45),
   ("LATIN CAPITAL LETTER F", 0x46), ("LATIN CAPITAL LETTER G", 0x47),
   ("LATIN CAPITAL LETTER H", 0x48), ("LATIN CAPITAL LETTER I", 0x49),
   ("LATIN CAPITAL LETTER J", 0x4a), ("LATIN CAPITAL LETTER K", 0x4b),
   ("LATIN CAPITAL LETTER L", 0x4c), ("LATIN CAPITAL LETTER M", 0x4d),
   ("LATIN CAPITAL LETTER N", 0x4e), ("LATIN CAPITAL LETTER O", 0x4f),
   ("LATIN CAPITAL LETTER P", 0x50), ("LATIN CAPITAL LETTER Q", 0x51),
   ("LATIN CAPITAL LETTER R", 0x52), ("LATIN CAPITAL LETTER S", 0x53),
   ("LATIN CAPITAL LETTER T", 0x54), ("LATIN CAPITAL LETTER U", 0x55),
   ("LATIN CAPITAL LETTER V", 0x56), ("LATIN CAPITAL LETTER W", 0x57),
   ("LATIN CAPITAL LETTER X", 0x58), ("LATIN CAPITAL LETTER Y", 0x59),
   ("LATIN CAPITAL LETTER Z", 0x5a), ("LEFT SQUARE BRACKET", 0x5b), ("REVERSE SOLIDUS", 0x5c),
   ("RIGHT SQUARE BRACKET", 0x5d), ("CIRCUMFLEX ACCENT", 0x5e), ("LOW LINE", 0x5f),
   ("GRAVE ACCENT", 0x60), ("LATIN SMALL LETTER A", 0x61), ("LATIN SMALL LETTER B", 0x62),
   ("LATIN SMALL LETTER C", 0x63), ("LATIN SMALL LETTER D", 0x64), ("LATIN SMALL LETTER E", 0x65),
   ("LATIN SMALL LETTER F", 0x66), ("LATIN SMALL LETTER G", 0x67), ("LATIN SMALL LETTER H", 0x68),
   ("LATIN SMALL LETTER I", 0x69), ("LATIN SMALL LETTER J", 0x6a), ("LATIN SMALL LETTER K", 0x6b),
   ("LATIN SMALL LETTER L", 0x6c), ("LATIN SMALL LETTER M", 0x6d), ("LATIN SMALL LETTER N", 0x6e),
   ("LATIN SMALL LETTER O", 0x6f), ("LATIN SMALL LETTER P", 0x70), ("LATIN SMALL LETTER Q", 0x71),
   ("LATIN SMALL LETTER R", 0x72), ("LATIN SMALL LETTER S", 0x73), ("LATIN SMALL LETTER T", 0x74),
   ("LATIN SMALL LETTER U", 0x75), ("LATIN SMALL LETTER V", 0x76), ("LATIN SMALL LETTER W", 0x77),
   ("LATIN SMALL LETTER X", 0x78), ("LATIN SMALL LETTER Y", 0x79), ("LATIN SMALL LETTER Z", 0x7a),
   ("LEFT CURLY BRACKET", 0x7b), ("VERTICAL LINE", 0x7c), ("RIGHT CURLY BRACKET", 0x7d),
   ("TILDE", 0x7e), ("DEL", 0x7f), ("DELETE", 0x7f), ("NEL", 0x85), ("NEXT LINE", 0x85),
   ("NBSP", 0xa0), ("NO-BREAK SPACE", 0xa0), ("INVERTED EXCLAMATION MARK", 0xa1),
   ("CENT SIGN", 0xa2), ("POUND SIGN", 0xa3), ("CURRENCY SIGN", 0xa4), ("YEN SIGN", 0xa5),
   ("BROKEN BAR", 0xa6), ("SECTION SIGN", 0xa7), ("DIAERESIS", 0xa8), ("COPYRIGHT SIGN", 0xa9),
   ("FEMININE ORDINAL INDICATOR", 0xaa), ("LEFT-POINTING DOUBLE ANGLE QUOTATION MARK", 0xab),
   ("NOT SIGN", 0xac), ("SHY", 0xad), ("SOFT HYPHEN", 0xad), ("REGISTERED SIGN", 0xae),
   ("MACRON", 0xaf), ("DEGREE SIGN", 0xb0), ("PLUS-MINUS SIGN", 0xb1), ("SUPERSCRIPT TWO", 0xb2),
   ("SUPERSCRIPT THREE", 0xb3), ("ACUTE ACCENT", 0xb4), ("MICRO SIGN", 0xb5),
   ("PILCROW SIGN", 0xb6), ("MIDDLE DOT", 0xb7), ("CEDILLA", 0xb8), ("SUPERSCRIPT ONE", 0xb9),
   ("MASCULINE ORDINAL INDICATOR", 0xba), ("RIGHT-POINTING DOUBLE ANGLE QUOTATION MARK", 0xbb),
   ("VULGAR FRACTION ONE QUARTER", 0xbc), ("VULGAR FRACTION ONE HALF", 0xbd),
   ("VULGAR FRACTION THREE QUARTERS", 0xbe), ("INVERTED QUESTION MARK", 0xbf),
   ("LATIN CAPITAL LETTER A WITH GRAVE", 0xc0), ("LATIN CAPITAL LETTER A WITH ACUTE", 0xc1),
   ("LATIN CAPITAL LETTER A WITH CIRCUMFLEX", 0xc2), ("LATIN CAPITAL LETTER A WITH TILDE", 0xc3),
   ("LATIN CAPITAL LETTER A WITH DIAERESIS", 0xc4),
   ("LATIN CAPITAL LETTER A WITH RING ABOVE", 0xc5), ("LATIN CAPITAL LETTER AE", 0xc6),
   ("LATIN CAPITAL LETTER C WITH CEDILLA", 0xc7), ("LATIN CAPITAL LETTER E WITH GRAVE", 0xc8),
   ("LATIN CAPITAL LETTER E WITH ACUTE", 0xc9), ("LATIN CAPITAL LETTER E WITH CIRCUMFLEX", 0xca),
   ("LATIN CAPITAL LETTER E WITH DIAERESIS", 0xcb), ("LATIN CAPITAL LETTER I WITH GRAVE", 0xcc),
   ("LATIN CAPITAL LETTER I WITH ACUTE", 0xcd), ("LATIN CAPITAL LETTER I WITH CIRCUMFLEX", 0xce),
   ("LATIN CAPITAL LETTER I WITH DIAERESIS", 0xcf), ("LATIN CAPITAL LETTER ETH", 0xd0),
   ("LATIN CAPITAL LETTER N WITH TILDE", 0xd1), ("LATIN CAPITAL LETTER O WITH GRAVE", 0xd2),
   ("LATIN CAPITAL LETTER O WITH ACUTE", 0xd3), ("LATIN CAPITAL LETTER O WITH CIRCUMFLEX", 0xd4),
   ("LATIN CAPITAL LETTER O WITH TILDE", 0xd5), ("LATIN CAPITAL LETTER O WITH DIAERESIS", 0xd6),
   ("MULTIPLICATION SIGN", 0xd7), ("LATIN CAPITAL LETTER O WITH STROKE", 0xd8),
   ("LATIN CAPITAL LETTER U WITH GRAVE", 0xd9), ("LATIN CAPITAL LETTER U WITH ACUTE", 0xda),
   ("LATIN CAPITAL LETTER U WITH CIRCUMFLEX", 0xdb),
   ("LATIN CAPITAL LETTER U WITH DIAERESIS", 0xdc), ("LATIN CAPITAL LETTER Y WITH ACUTE", 0xdd),
   ("LATIN CAPITAL LETTER THORN", 0xde), ("LATIN SMALL LETTER SHARP S", 0xdf),
   ("LATIN SMALL LETTER A WITH GRAVE", 0xe0), ("LATIN SMALL LETTER A WITH ACUTE", 0xe1),
   ("LATIN SMALL LETTER A WITH CIRCUMFLEX", 0xe2), ("LATIN SMALL LETTER A WITH TILDE", 0xe3),
   ("LATIN SMALL LETTER A WITH DIAERESIS", 0xe4), ("LATIN SMALL LETTER A WITH RING ABOVE", 0xe5),
   ("LATIN SMALL LETTER AE", 0xe6), ("LATIN SMALL LETTER C WITH CEDILLA", 0xe7),
   ("LATIN SMALL LETTER E WITH GRAVE", 0xe8), ("LATIN SMALL LETTER E WITH ACUTE", 0xe9),
   ("LATIN SMALL LETTER E WITH CIRCUMFLEX", 0xea), ("LATIN SMALL LETTER E WITH DIAERESIS", 0xeb),
   ("LATIN SMALL LETTER I WITH GRAVE", 0xec), ("LATIN SMALL LETTER I WITH ACUTE", 0xed),
   ("LATIN SMALL LETTER I WITH CIRCUMFLEX", 0xee), ("LATIN SMALL LETTER I WITH DIAERESIS", 0xef),
   ("LATIN SMALL LETTER ETH", 0xf0), ("LATIN SMALL LETTER N WITH TILDE", 0xf1),
   ("LATIN SMALL LETTER O WITH GRAVE", 0xf2), ("LATIN SMALL LETTER O WITH ACUTE", 0xf3),
   ("LATIN SMALL LETTER O WITH CIRCUMFLEX", 0xf4), ("LATIN SMALL LETTER O WITH TILDE", 0xf5),
   ("LATIN SMALL LETTER O WITH DIAERESIS", 0xf6), ("DIVISION SIGN", 0xf7),
   ("LATIN SMALL LETTER O WITH STROKE", 0xf8), ("LATIN SMALL LETTER U WITH GRAVE", 0xf9),
   ("LATIN SMALL LETTER U WITH ACUTE", 0xfa), ("LATIN SMALL LETTER U WITH CIRCUMFLEX", 0xfb),
   ("LATIN SMALL LETTER U WITH DIAERESIS", 0xfc), ("LATIN SMALL LETTER Y WITH ACUTE", 0xfd),
   ("LATIN SMALL LETTER THORN", 0xfe), ("LATIN SMALL LETTER Y WITH DIAERESIS", 0xff),
   ("LATIN CAPITAL LETTER A WITH MACRON", 0x100), ("LATIN SMALL LETTER A WITH MACRON", 0x101),
   ("LATIN CAPITAL LETTER A WITH BREVE", 0x102), ("LATIN SMALL LETTER A WITH BREVE", 0x103),
   ("LATIN CAPITAL LETTER A WITH OGONEK", 0x104), ("LATIN SMALL LETTER A WITH OGONEK", 0x105),
   ("LATIN CAPITAL LETTER C WITH ACUTE", 0x106), ("LATIN SMALL LETTER C WITH ACUTE", 0x107),
   ("LATIN CAPITAL LETTER C WITH CIRCUMFLEX", 0x108),
   ("LATIN SMALL LETTER C WITH CIRCUMFLEX", 0x109),
   ("LATIN CAPITAL LETTER C WITH DOT ABOVE", 0x10a), ("LATIN SMALL LETTER C WITH DOT ABOVE", 0x10b),
   ("LATIN CAPITAL LETTER C WITH CARON", 0x10c), ("LATIN SMALL LETTER C WITH CARON", 0x10d),
   ("LATIN CAPITAL LETTER D WITH CARON", 0x10e), ("LATIN SMALL LETTER D WITH CARON", 0x10f),
   ("LATIN CAPITAL LETTER D WITH STROKE", 0x110), ("LATIN SMALL LETTER D WITH STROKE", 0x111),
   ("LATIN CAPITAL LETTER E WITH MACRON", 0x112), ("LATIN SMALL LETTER E WITH MACRON", 0x113),
   ("LATIN CAPITAL LETTER E WITH BREVE", 0x114), ("LATIN SMALL LETTER E WITH BREVE", 0x115),
   ("LATIN CAPITAL LETTER E WITH DOT ABOVE", 0x116), ("LATIN SMALL LETTER E WITH DOT ABOVE", 0x117),
   ("LATIN CAPITAL LETTER E WITH OGONEK", 0x118), ("LATIN SMALL LETTER E WITH OGONEK", 0x119),
   ("LATIN CAPITAL LETTER E WITH CARON", 0x11a), ("LATIN SMALL LETTER E WITH CARON", 0x11b),
   ("LATIN CAPITAL LETTER G WITH CIRCUMFLEX", 0x11c),
   ("LATIN SMALL LETTER G WITH CIRCUMFLEX", 0x11d), ("LATIN CAPITAL LETTER G WITH BREVE", 0x11e),
   ("LATIN SMALL LETTER G WITH BREVE", 0x11f), ("LATIN CAPITAL LETTER G WITH DOT ABOVE", 0x120),
   ("LATIN SMALL LETTER G WITH DOT ABOVE", 0x121), ("LATIN CAPITAL LETTER G WITH CEDILLA", 0x122),
   ("LATIN SMALL LETTER G WITH CEDILLA", 0x123), ("LATIN CAPITAL LETTER H WITH CIRCUMFLEX", 0x124),
   ("LATIN SMALL LETTER H WITH CIRCUMFLEX", 0x125), ("LATIN CAPITAL LETTER H WITH STROKE", 0x126),
   ("LATIN SMALL LETTER H WITH STROKE", 0x127), ("LATIN CAPITAL LETTER I WITH TILDE", 0x128),
   ("LATIN SMALL LETTER I WITH TILDE", 0x129), ("LATIN CAPITAL LETTER I WITH MACRON", 0x12a),
   ("LATIN SMALL LETTER I WITH MACRON", 0x12b), ("LATIN CAPITAL LETTER I WITH BREVE", 0x12c),
   ("LATIN SMALL LETTER I WITH BREVE", 0x12d), ("LATIN CAPITAL LETTER I WITH OGONEK", 0x12e),
   ("LATIN SMALL LETTER I WITH OGONEK", 0x12f), ("LATIN CAPITAL LETTER I WITH DOT ABOVE", 0x130),
   ("LATIN SMALL LETTER DOTLESS I", 0x131), ("LATIN CAPITAL LIGATURE IJ", 0x132),
   ("LATIN SMALL LIGATURE IJ", 0x133), ("LATIN CAPITAL LETTER J WITH CIRCUMFLEX", 0x134),
   ("LATIN SMALL LETTER J WITH CIRCUMFLEX", 0x135), ("LATIN CAPITAL LETTER K WITH CEDILLA", 0x136),
   ("LATIN SMALL LETTER K WITH CEDILLA", 0x137), ("LATIN SMALL LETTER KRA", 0x138),
   ("LATIN CAPITAL LETTER L WITH ACUTE", 0x139), ("LATIN SMALL LETTER L WITH ACUTE", 0x13a),
   ("LATIN CAPITAL LETTER L WITH CEDILLA", 0x13b), ("LATIN SMALL LETTER L WITH CEDILLA", 0x13c),
   ("LATIN CAPITAL LETTER L WITH CARON", 0x13d), ("LATIN SMALL LETTER L WITH CARON", 0x13e),
   ("LATIN CAPITAL LETTER L WITH MIDDLE DOT", 0x13f),
   ("LATIN SMALL LETTER L WITH MIDDLE DOT", 0x140), ("LATIN CAPITAL LETTER L WITH STROKE", 0x141),
   ("LATIN SMALL LETTER L WITH STROKE", 0x142), ("LATIN CAPITAL LETTER N WITH ACUTE", 0x143),
   ("LATIN SMALL LETTER N WITH ACUTE", 0x144), ("LATIN CAPITAL LETTER N WITH CEDILLA", 0x145),
   ("LATIN SMALL LETTER N WITH CEDILLA", 0x146), ("LATIN CAPITAL LETTER N WITH CARON", 0x147),
   ("LATIN SMALL LETTER N WITH CARON", 0x148),
   ("LATIN SMALL LETTER N PRECEDED BY APOSTROPHE", 0x149), ("LATIN CAPITAL LETTER ENG", 0x14a),
   ("LATIN SMALL LETTER ENG", 0x14b), ("LATIN CAPITAL LETTER O WITH MACRON", 0x14c),
   ("LATIN SMALL LETTER O WITH MACRON", 0x14d), ("LATIN CAPITAL LETTER O WITH BREVE", 0x14e),
   ("LATIN SMALL LETTER O WITH BREVE", 0x14f), ("LATIN CAPITAL LETTER O WITH DOUBLE ACUTE", 0x150),
   ("LATIN SMALL LETTER O WITH DOUBLE ACUTE", 0x151), ("LATIN CAPITAL LIGATURE OE", 0x152),
   ("LATIN SMALL LIGATURE OE", 0x153), ("LATIN CAPITAL LETTER R WITH ACUTE", 0x154),
   ("LATIN SMALL LETTER R WITH ACUTE", 0x155), ("LATIN CAPITAL LETTER R WITH CEDILLA", 0x156),
   ("LATIN SMALL LETTER R WITH CEDILLA", 0x157), ("LATIN CAPITAL LETTER R WITH CARON", 0x158),
   ("LATIN SMALL LETTER R WITH CARON", 0x159), ("LATIN CAPITAL LETTER S WITH ACUTE", 0x15a),
   ("LATIN SMALL LETTER S WITH ACUTE", 0x15b), ("LATIN CAPITAL LETTER S WITH CIRCUMFLEX", 0x15c),
   ("LATIN SMALL LETTER S WITH CIRCUMFLEX", 0x15d), ("LATIN CAPITAL LETTER S WITH CEDILLA", 0x15e),
   ("LATIN SMALL LETTER S WITH CEDILLA", 0x15f), ("LATIN CAPITAL LETTER S WITH CARON", 0x160),
   ("LATIN SMALL LETTER S WITH CARON", 0x161), ("LATIN CAPITAL LETTER T WITH CEDILLA", 0x162),
   ("LATIN SMALL LETTER T WITH CEDILLA", 0x163), ("LATIN CAPITAL LETTER T WITH CARON", 0x164),
   ("LATIN SMALL LETTER T WITH CARON", 0x165), ("LATIN CAPITAL LETTER T WITH STROKE", 0x166),
   ("LATIN SMALL LETTER T WITH STROKE", 0x167), ("LATIN CAPITAL LETTER U WITH TILDE", 0x168),
   ("LATIN SMALL LETTER U WITH TILDE", 0x169), ("LATIN CAPITAL LETTER U WITH MACRON", 0x16a),
   ("LATIN SMALL LETTER U WITH MACRON", 0x16b), ("LATIN CAPITAL LETTER U WITH BREVE", 0x16c),
   ("LATIN SMALL LETTER U WITH BREVE", 0x16d), ("LATIN CAPITAL LETTER U WITH RING ABOVE", 0x16e),
   ("LATIN SMALL LETTER U WITH RING ABOVE", 0x16f),
   ("LATIN CAPITAL LETTER U WITH DOUBLE ACUTE", 0x170),
   ("LATIN SMALL LETTER U WITH DOUBLE ACUTE", 0x171), ("LATIN CAPITAL LETTER U WITH OGONEK", 0x172),
   ("LATIN SMALL LETTER U WITH OGONEK", 0x173), ("LATIN CAPITAL LETTER W WITH CIRCUMFLEX", 0x174),
   ("LATIN SMALL LETTER W WITH CIRCUMFLEX", 0x175),
   ("LATIN CAPITAL LETTER Y WITH CIRCUMFLEX", 0x176),
   ("LATIN SMALL LETTER Y WITH CIRCUMFLEX", 0x177),
   ("LATIN CAPITAL LETTER Y WITH DIAERESIS", 0x178), ("LATIN CAPITAL LETTER Z WITH ACUTE", 0x179),
   ("LATIN SMALL LETTER Z WITH ACUTE", 0x17a), ("LATIN CAPITAL LETTER Z WITH DOT ABOVE", 0x17b),
   ("LATIN SMALL LETTER Z WITH DOT ABOVE", 0x17c), ("LATIN CAPITAL LETTER Z WITH CARON", 0x17d),
   ("LATIN SMALL LETTER Z WITH CARON", 0x17e), ("LATIN SMALL LETTER LONG S", 0x17f),
   ("MODIFIER LETTER SMALL H", 0x2b0), ("COMBINING GRAVE ACCENT", 0x300),
   ("COMBINING ACUTE ACCENT", 0x301), ("COMBINING CIRCUMFLEX ACCENT", 0x302),
   ("COMBINING TILDE", 0x303), ("COMBINING MACRON", 0x304), ("COMBINING OVERLINE", 0x305),
   ("COMBINING BREVE", 0x306), ("COMBINING DOT ABOVE", 0x307), ("COMBINING DIAERESIS", 0x308),
   ("COMBINING HOOK ABOVE", 0x309), ("COMBINING RING ABOVE", 0x30a),
   ("COMBINING DOUBLE ACUTE ACCENT", 0x30b), ("COMBINING CARON", 0x30c),
   ("GREEK CAPITAL LETTER HETA", 0x370), ("GREEK SMALL LETTER HETA", 0x371),
   ("GREEK CAPITAL LETTER ARCHAIC SAMPI", 0x372), ("GREEK SMALL LETTER ARCHAIC SAMPI", 0x373),
   ("GREEK NUMERAL SIGN", 0x374), ("GREEK LOWER NUMERAL SIGN", 0x375),
   ("GREEK CAPITAL LETTER PAMPHYLIAN DIGAMMA", 0x376),
   ("GREEK SMALL LETTER PAMPHYLIAN DIGAMMA", 0x377), ("GREEK TONOS", 0x384),
   ("GREEK DIALYTIKA TONOS", 0x385), ("GREEK CAPITAL LETTER ALPHA WITH TONOS", 0x386),
   ("GREEK ANO TELEIA", 0x387), ("GREEK CAPITAL LETTER EPSILON WITH TONOS", 0x388),
   ("GREEK CAPITAL LETTER ETA WITH TONOS", 0x389), ("GREEK CAPITAL LETTER IOTA WITH TONOS", 0x38a),
   ("GREEK CAPITAL LETTER OMICRON WITH TONOS", 0x38c),
   ("GREEK CAPITAL LETTER UPSILON WITH TONOS", 0x38e),
   ("GREEK CAPITAL LETTER OMEGA WITH TONOS", 0x38f),
   ("GREEK SMALL LETTER IOTA WITH DIALYTIKA AND TONOS", 0x390),
   ("GREEK CAPITAL LETTER ALPHA", 0x391), ("GREEK CAPITAL LETTER BETA", 0x392),
   ("GREEK CAPITAL LETTER GAMMA", 0x393), ("GREEK CAPITAL LETTER DELTA", 0x394),
   ("GREEK CAPITAL LETTER EPSILON", 0x395), ("GREEK CAPITAL LETTER ZETA", 0x396),
   ("GREEK CAPITAL LETTER ETA", 0x397), ("GREEK CAPITAL LETTER THETA", 0x398),
   ("GREEK CAPITAL LETTER IOTA", 0x399), ("GREEK CAPITAL LETTER KAPPA", 0x39a),
   ("GREEK CAPITAL LETTER LAMDA", 0x39b), ("GREEK CAPITAL LETTER MU", 0x39c),
   ("GREEK CAPITAL LETTER NU", 0x39d), ("GREEK CAPITAL LETTER XI", 0x39e),
   ("GREEK CAPITAL LETTER OMICRON", 0x39f), ("GREEK CAPITAL LETTER PI", 0x3a0),
   ("GREEK CAPITAL LETTER RHO", 0x3a1), ("GREEK CAPITAL LETTER SIGMA", 0x3a3),
   ("GREEK CAPITAL LETTER TAU", 0x3a4), ("GREEK CAPITAL LETTER UPSILON", 0x3a5),
   ("GREEK CAPITAL LETTER PHI", 0x3a6), ("GREEK CAPITAL LETTER CHI", 0x3a7),
   ("GREEK CAPITAL LETTER PSI", 0x3a8), ("GREEK CAPITAL LETTER OMEGA", 0x3a9),
   ("GREEK CAPITAL LETTER IOTA WITH DIALYTIKA", 0x3aa),
   ("GREEK CAPITAL LETTER UPSILON WITH DIALYTIKA", 0x3ab),
   ("GREEK SMALL LETTER ALPHA WITH TONOS", 0x3ac), ("GREEK SMALL LETTER EPSILON WITH TONOS", 0x3ad),
   ("GREEK SMALL LETTER ETA WITH TONOS", 0x3ae), ("GREEK SMALL LETTER IOTA WITH TONOS", 0x3af),
   ("GREEK SMALL LETTER UPSILON WITH DIALYTIKA AND TONOS", 0x3b0),
   ("GREEK SMALL LETTER ALPHA", 0x3b1), ("GREEK SMALL LETTER BETA", 0x3b2),
   ("GREEK SMALL LETTER GAMMA", 0x3b3), ("GREEK SMALL LETTER DELTA", 0x3b4),
   ("GREEK SMALL LETTER EPSILON", 0x3b5), ("GREEK SMALL LETTER ZETA", 0x3b6),
   ("GREEK SMALL LETTER ETA", 0x3b7), ("GREEK SMALL LETTER THETA", 0x3b8),
   ("GREEK SMALL LETTER IOTA", 0x3b9), ("GREEK SMALL LETTER KAPPA", 0x3ba),
   ("GREEK SMALL LETTER LAMDA", 0x3bb), ("GREEK SMALL LETTER MU", 0x3bc),
   ("GREEK SMALL LETTER NU", 0x3bd), ("GREEK SMALL LETTER XI", 0x3be),
   ("GREEK SMALL LETTER OMICRON", 0x3bf), ("GREEK SMALL LETTER PI", 0x3c0),
   ("GREEK SMALL LETTER RHO", 0x3c1), ("GREEK SMALL LETTER FINAL SIGMA", 0x3c2),
   ("GREEK SMALL LETTER SIGMA", 0x3c3), ("GREEK SMALL LETTER TAU", 0x3c4),
   ("GREEK SMALL LETTER UPSILON", 0x3c5), ("GREEK SMALL LETTER PHI", 0x3c6),
   ("GREEK SMALL LETTER CHI", 0x3c7), ("GREEK SMALL LETTER PSI", 0x3c8),
   ("GREEK SMALL LETTER OMEGA", 0x3c9), ("GREEK SMALL LETTER IOTA WITH DIALYTIKA", 0x3ca),
   ("GREEK SMALL LETTER UPSILON WITH DIALYTIKA", 0x3cb),
   ("GREEK SMALL LETTER OMICRON WITH TONOS", 0x3cc),
   ("GREEK SMALL LETTER UPSILON WITH TONOS", 0x3cd), ("GREEK SMALL LETTER OMEGA WITH TONOS", 0x3ce),
   ("GREEK CAPITAL KAI SYMBOL", 0x3cf), ("GREEK BETA SYMBOL", 0x3d0), ("GREEK THETA SYMBOL", 0x3d1),
   ("GREEK UPSILON WITH HOOK SYMBOL", 0x3d2), ("GREEK UPSILON WITH ACUTE AND HOOK SYMBOL", 0x3d3),
   ("GREEK UPSILON WITH DIAERESIS AND HOOK SYMBOL", 0x3d4), ("GREEK PHI SYMBOL", 0x3d5),
   ("GREEK PI SYMBOL", 0x3d6), ("GREEK KAI SYMBOL", 0x3d7), ("GREEK LETTER ARCHAIC KOPPA", 0x3d8),
   ("GREEK SMALL LETTER ARCHAIC KOPPA", 0x3d9), ("GREEK LETTER STIGMA", 0x3da),
   ("GREEK SMALL LETTER STIGMA", 0x3db), ("GREEK LETTER DIGAMMA", 0x3dc),
   ("GREEK SMALL LETTER DIGAMMA", 0x3dd), ("GREEK LETTER KOPPA", 0x3de),
   ("GREEK SMALL LETTER KOPPA", 0x3df), ("GREEK LETTER SAMPI", 0x3e0),
   ("GREEK SMALL LETTER SAMPI", 0x3e1), ("COPTIC CAPITAL LETTER SHEI", 0x3e2),
   ("COPTIC SMALL LETTER SHEI", 0x3e3), ("COPTIC CAPITAL LETTER FEI", 0x3e4),
   ("COPTIC SMALL LETTER FEI", 0x3e5), ("COPTIC CAPITAL LETTER KHEI", 0x3e6),
   ("COPTIC SMALL LETTER KHEI", 0x3e7), ("COPTIC CAPITAL LETTER HORI", 0x3e8),
   ("COPTIC SMALL LETTER HORI", 0x3e9), ("COPTIC CAPITAL LETTER GANGIA", 0x3ea),
   ("COPTIC SMALL LETTER GANGIA", 0x3eb), ("COPTIC CAPITAL LETTER SHIMA", 0x3ec),
   ("COPTIC SMALL LETTER SHIMA", 0x3ed), ("COPTIC CAPITAL LETTER DEI", 0x3ee),
   ("COPTIC SMALL LETTER DEI", 0x3ef), ("GREEK KAPPA SYMBOL", 0x3f0), ("GREEK RHO SYMBOL", 0x3f1),
   ("GREEK LUNATE SIGMA SYMBOL", 0x3f2), ("GREEK LETTER YOT", 0x3f3),
   ("GREEK CAPITAL THETA SYMBOL", 0x3f4), ("GREEK LUNATE EPSILON SYMBOL", 0x3f5),
   ("GREEK REVERSED LUNATE EPSILON SYMBOL", 0x3f6), ("GREEK CAPITAL LETTER SHO", 0x3f7),
   ("GREEK SMALL LETTER SHO", 0x3f8), ("GREEK CAPITAL LUNATE SIGMA SYMBOL", 0x3f9),
   ("GREEK CAPITAL LETTER SAN", 0x3fa), ("GREEK SMALL LETTER SAN", 0x3fb),
   ("GREEK RHO WITH STROKE SYMBOL", 0x3fc), ("GREEK CAPITAL REVERSED LUNATE SIGMA SYMBOL", 0x3fd),
   ("GREEK CAPITAL DOTTED LUNATE SIGMA SYMBOL", 0x3fe),
   ("GREEK CAPITAL REVERSED DOTTED LUNATE SIGMA SYMBOL", 0x3ff),
   ("CYRILLIC CAPITAL LETTER IE WITH GRAVE", 0x400), ("CYRILLIC CAPITAL LETTER IO", 0x401),
   ("CYRILLIC CAPITAL LETTER DJE", 0x402), ("CYRILLIC CAPITAL LETTER GJE", 0x403),
   ("CYRILLIC CAPITAL LETTER UKRAINIAN IE", 0x404), ("CYRILLIC CAPITAL LETTER DZE", 0x405),
   ("CYRILLIC CAPITAL LETTER BYELORUSSIAN-UKRAINIAN I", 0x406),
   ("CYRILLIC CAPITAL LETTER YI", 0x407), ("CYRILLIC CAPITAL LETTER JE", 0x408),
   ("CYRILLIC CAPITAL LETTER LJE", 0x409), ("CYRILLIC CAPITAL LETTER NJE", 0x40a),
   ("CYRILLIC CAPITAL LETTER TSHE", 0x40b), ("CYRILLIC CAPITAL LETTER KJE", 0x40c),
   ("CYRILLIC CAPITAL LETTER I WITH GRAVE", 0x40d), ("CYRILLIC CAPITAL LETTER SHORT U", 0x40e),
   ("CYRILLIC CAPITAL LETTER DZHE", 0x40f), ("CYRILLIC CAPITAL LETTER A", 0x410),
   ("CYRILLIC CAPITAL LETTER BE", 0x411), ("CYRILLIC CAPITAL LETTER VE", 0x412),
   ("CYRILLIC CAPITAL LETTER GHE", 0x413), ("CYRILLIC CAPITAL LETTER DE", 0x414),
   ("CYRILLIC CAPITAL LETTER IE", 0x415), ("CYRILLIC CAPITAL LETTER ZHE", 0x416),
   ("CYRILLIC CAPITAL LETTER ZE", 0x417), ("CYRILLIC CAPITAL LETTER I", 0x418),
   ("CYRILLIC CAPITAL LETTER SHORT I", 0x419), ("CYRILLIC CAPITAL LETTER KA", 0x41a),
   ("CYRILLIC CAPITAL LETTER EL", 0x41b), ("CYRILLIC CAPITAL LETTER EM", 0x41c),
   ("CYRILLIC CAPITAL LETTER EN", 0x41d), ("CYRILLIC CAPITAL LETTER O", 0x41e),
   ("CYRILLIC CAPITAL LETTER PE", 0x41f), ("CYRILLIC CAPITAL LETTER ER", 0x420),
   ("CYRILLIC CAPITAL LETTER ES", 0x421), ("CYRILLIC CAPITAL LETTER TE", 0x422),
   ("CYRILLIC CAPITAL LETTER U", 0x423), ("CYRILLIC CAPITAL LETTER EF", 0x424),
   ("CYRILLIC CAPITAL LETTER HA", 0x425), ("CYRILLIC CAPITAL LETTER TSE", 0x426),
   ("CYRILLIC CAPITAL LETTER CHE", 0x427), ("CYRILLIC CAPITAL LETTER SHA", 0x428),
   ("CYRILLIC CAPITAL LETTER SHCHA", 0x429), ("CYRILLIC CAPITAL LETTER HARD SIGN", 0x42a),
   ("CYRILLIC CAPITAL LETTER YERU", 0x42b), ("CYRILLIC CAPITAL LETTER SOFT SIGN", 0x42c),
   ("CYRILLIC CAPITAL LETTER E", 0x42d), ("CYRILLIC CAPITAL LETTER YU", 0x42e),
   ("CYRILLIC CAPITAL LETTER YA", 0x42f), ("CYRILLIC SMALL LETTER A", 0x430),
   ("CYRILLIC SMALL LETTER BE", 0x431), ("CYRILLIC SMALL LETTER VE", 0x432),
   ("CYRILLIC SMALL LETTER GHE", 0x433), ("CYRILLIC SMALL LETTER DE", 0x434),
   ("CYRILLIC SMALL LETTER IE", 0x435), ("CYRILLIC SMALL LETTER ZHE", 0x436),
   ("CYRILLIC SMALL LETTER ZE", 0x437), ("CYRILLIC SMALL LETTER I", 0x438),
   ("CYRILLIC SMALL LETTER SHORT I", 0x439), ("CYRILLIC SMALL LETTER KA", 0x43a),
   ("CYRILLIC SMALL LETTER EL", 0x43b), ("CYRILLIC SMALL LETTER EM", 0x43c),
   ("CYRILLIC SMALL LETTER EN", 0x43d), ("CYRILLIC SMALL LETTER O", 0x43e),
   ("CYRILLIC SMALL LETTER PE", 0x43f), ("CYRILLIC SMALL LETTER ER", 0x440),
   ("CYRILLIC SMALL LETTER ES", 0x441), ("CYRILLIC SMALL LETTER TE", 0x442),
   ("CYRILLIC SMALL LETTER U", 0x443), ("CYRILLIC SMALL LETTER EF", 0x444),
   ("CYRILLIC SMALL LETTER HA", 0x445), ("CYRILLIC SMALL LETTER TSE", 0x446),
   ("CYRILLIC SMALL LETTER CHE", 0x447), ("CYRILLIC SMALL LETTER SHA", 0x448),
   ("CYRILLIC SMALL LETTER SHCHA", 0x449), ("CYRILLIC SMALL LETTER HARD SIGN", 0x44a),
   ("CYRILLIC SMALL LETTER YERU", 0x44b), ("CYRILLIC SMALL LETTER SOFT SIGN", 0x44c),
   ("CYRILLIC SMALL LETTER E", 0x44d), ("CYRILLIC SMALL LETTER YU", 0x44e),
   ("CYRILLIC SMALL LETTER YA", 0x44f), ("CYRILLIC SMALL LETTER IE WITH GRAVE", 0x450),
   ("CYRILLIC SMALL LETTER IO", 0x451), ("CYRILLIC SMALL LETTER DJE", 0x452),
   ("CYRILLIC SMALL LETTER GJE", 0x453), ("CYRILLIC SMALL LETTER UKRAINIAN IE", 0x454),
   ("CYRILLIC SMALL LETTER DZE", 0x455), ("CYRILLIC SMALL LETTER BYELORUSSIAN-UKRAINIAN I", 0x456),
   ("CYRILLIC SMALL LETTER YI", 0x457), ("CYRILLIC SMALL LETTER JE", 0x458),
   ("CYRILLIC SMALL LETTER LJE", 0x459), ("CYRILLIC SMALL LETTER NJE", 0x45a),
   ("CYRILLIC SMALL LETTER TSHE", 0x45b), ("CYRILLIC SMALL LETTER KJE", 0x45c),
   ("CYRILLIC SMALL LETTER I WITH GRAVE", 0x45d), ("CYRILLIC SMALL LETTER SHORT U", 0x45e),
   ("CYRILLIC SMALL LETTER DZHE", 0x45f), ("HEBREW LETTER ALEF", 0x5d0),
   ("HEBREW LETTER BET", 0x5d1), ("HEBREW LETTER GIMEL", 0x5d2), ("HEBREW LETTER DALET", 0x5d3),
   ("HEBREW LETTER HE", 0x5d4), ("HEBREW LETTER VAV", 0x5d5), ("HEBREW LETTER ZAYIN", 0x5d6),
   ("HEBREW LETTER HET", 0x5d7), ("HEBREW LETTER TET", 0x5d8), ("HEBREW LETTER YOD", 0x5d9),
   ("HEBREW LETTER FINAL KAF", 0x5da), ("HEBREW LETTER KAF", 0x5db), ("HEBREW LETTER LAMED", 0x5dc),
   ("HEBREW LETTER FINAL MEM", 0x5dd), ("HEBREW LETTER MEM", 0x5de),
   ("HEBREW LETTER FINAL NUN", 0x5df), ("HEBREW LETTER NUN", 0x5e0),
   ("HEBREW LETTER SAMEKH", 0x5e1), ("HEBREW LETTER AYIN", 0x5e2),
   ("HEBREW LETTER FINAL PE", 0x5e3), ("HEBREW LETTER PE", 0x5e4),
   ("HEBREW LETTER FINAL TSADI", 0x5e5), ("HEBREW LETTER TSADI", 0x5e6),
   ("HEBREW LETTER QOF", 0x5e7), ("HEBREW LETTER RESH", 0x5e8), ("HEBREW LETTER SHIN", 0x5e9),
   ("HEBREW LETTER TAV", 0x5ea), ("ARABIC-INDIC DIGIT ZERO", 0x660),
   ("ARABIC-INDIC DIGIT ONE", 0x661), ("ARABIC-INDIC DIGIT TWO", 0x662),
   ("ARABIC-INDIC DIGIT THREE", 0x663), ("ARABIC-INDIC DIGIT FOUR", 0x664),
   ("ARABIC-INDIC DIGIT FIVE", 0x665), ("ARABIC-INDIC DIGIT SIX", 0x666),
   ("ARABIC-INDIC DIGIT SEVEN", 0x667), ("ARABIC-INDIC DIGIT EIGHT", 0x668),
   ("ARABIC-INDIC DIGIT NINE", 0x669), ("EXTENDED ARABIC-INDIC DIGIT ZERO", 0x6f0),
   ("EXTENDED ARABIC-INDIC DIGIT ONE", 0x6f1), ("EXTENDED ARABIC-INDIC DIGIT TWO", 0x6f2),
   ("EXTENDED ARABIC-INDIC DIGIT THREE", 0x6f3), ("EXTENDED ARABIC-INDIC DIGIT FOUR", 0x6f4),
   ("EXTENDED ARABIC-INDIC DIGIT FIVE", 0x6f5), ("EXTENDED ARABIC-INDIC DIGIT SIX", 0x6f6),
   ("EXTENDED ARABIC-INDIC DIGIT SEVEN", 0x6f7), ("EXTENDED ARABIC-INDIC DIGIT EIGHT", 0x6f8),
   ("EXTENDED ARABIC-INDIC DIGIT NINE", 0x6f9), ("DEVANAGARI DIGIT ZERO", 0x966),
   ("DEVANAGARI DIGIT ONE", 0x967), ("DEVANAGARI DIGIT TWO", 0x968),
   ("DEVANAGARI DIGIT THREE", 0x969), ("DEVANAGARI DIGIT FOUR", 0x96a),
   ("DEVANAGARI DIGIT FIVE", 0x96b), ("DEVANAGARI DIGIT SIX", 0x96c),
   ("DEVANAGARI DIGIT SEVEN", 0x96d), ("DEVANAGARI DIGIT EIGHT", 0x96e),
   ("DEVANAGARI DIGIT NINE", 0x96f), ("LATIN CAPITAL LETTER SHARP S", 0x1e9e), ("EN QUAD", 0x2000),
   ("EM QUAD", 0x2001), ("EN SPACE", 0x2002), ("EM SPACE", 0x2003), ("THREE-PER-EM SPACE", 0x2004),
   ("FOUR-PER-EM SPACE", 0x2005), ("SIX-PER-EM SPACE", 0x2006), ("FIGURE SPACE", 0x2007),
   ("PUNCTUATION SPACE", 0x2008), ("THIN SPACE", 0x2009), ("HAIR SPACE", 0x200a),
   ("ZERO WIDTH SPACE", 0x200b), ("ZWSP", 0x200b), ("ZERO WIDTH NON-JOINER", 0x200c),
   ("ZWNJ", 0x200c), ("ZERO WIDTH JOINER", 0x200d), ("ZWJ", 0x200d), ("LEFT-TO-RIGHT MARK", 0x200e),
   ("LRM", 0x200e), ("RIGHT-TO-LEFT MARK", 0x200f), ("RLM", 0x200f), ("HYPHEN", 0x2010),
   ("NON-BREAKING HYPHEN", 0x2011), ("FIGURE DASH", 0x2012), ("EN DASH", 0x2013),
   ("EM DASH", 0x2014), ("HORIZONTAL BAR", 0x2015), ("DOUBLE VERTICAL LINE", 0x2016),
   ("DOUBLE LOW LINE", 0x2017), ("LEFT SINGLE QUOTATION MARK", 0x2018),
   ("RIGHT SINGLE QUOTATION MARK", 0x2019), ("SINGLE LOW-9 QUOTATION MARK", 0x201a),
   ("SINGLE HIGH-REVERSED-9 QUOTATION MARK", 0x201b), ("LEFT DOUBLE QUOTATION MARK", 0x201c),
   ("RIGHT DOUBLE QUOTATION MARK", 0x201d), ("DOUBLE LOW-9 QUOTATION MARK", 0x201e),
   ("DOUBLE HIGH-REVERSED-9 QUOTATION MARK", 0x201f), ("DAGGER", 0x2020), ("DOUBLE DAGGER", 0x2021),
   ("BULLET", 0x2022), ("TRIANGULAR BULLET", 0x2023), ("ONE DOT LEADER", 0x2024),
   ("TWO DOT LEADER", 0x2025), ("HORIZONTAL ELLIPSIS", 0x2026), ("HYPHENATION POINT", 0x2027),
   ("LINE SEPARATOR", 0x2028), ("PARAGRAPH SEPARATOR", 0x2029), ("LEFT-TO-RIGHT EMBEDDING", 0x202a),
   ("RIGHT-TO-LEFT EMBEDDING", 0x202b), ("POP DIRECTIONAL FORMATTING", 0x202c),
   ("LEFT-TO-RIGHT OVERRIDE", 0x202d), ("RIGHT-TO-LEFT OVERRIDE", 0x202e),
   ("NARROW NO-BREAK SPACE", 0x202f), ("NNBSP", 0x202f), ("PER MILLE SIGN", 0x2030),
   ("PER TEN THOUSAND SIGN", 0x2031), ("PRIME", 0x2032), ("DOUBLE PRIME", 0x2033),
   ("TRIPLE PRIME", 0x2034), ("REVERSED PRIME", 0x2035), ("REVERSED DOUBLE PRIME", 0x2036),
   ("REVERSED TRIPLE PRIME", 0x2037), ("CARET", 0x2038),
   ("SINGLE LEFT-POINTING ANGLE QUOTATION MARK", 0x2039),
   ("SINGLE RIGHT-POINTING ANGLE QUOTATION MARK", 0x203a), ("REFERENCE MARK", 0x203b),
   ("DOUBLE EXCLAMATION MARK", 0x203c), ("INTERROBANG", 0x203d), ("OVERLINE", 0x203e),
   ("UNDERTIE", 0x203f), ("CHARACTER TIE", 0x2040), ("CARET INSERTION POINT", 0x2041),
   ("ASTERISM", 0x2042), ("HYPHEN BULLET", 0x2043), ("FRACTION SLASH", 0x2044),
   ("LEFT SQUARE BRACKET WITH QUILL", 0x2045), ("RIGHT SQUARE BRACKET WITH QUILL", 0x2046),
   ("DOUBLE QUESTION MARK", 0x2047), ("QUESTION EXCLAMATION MARK", 0x2048),
   ("EXCLAMATION QUESTION MARK", 0x2049), ("TIRONIAN SIGN ET", 0x204a),
   ("REVERSED PILCROW SIGN", 0x204b), ("BLACK LEFTWARDS BULLET", 0x204c),
   ("BLACK RIGHTWARDS BULLET", 0x204d), ("LOW ASTERISK", 0x204e), ("REVERSED SEMICOLON", 0x204f),
   ("CLOSE UP", 0x2050), ("TWO ASTERISKS ALIGNED VERTICALLY", 0x2051),
   ("COMMERCIAL MINUS SIGN", 0x2052), ("SWUNG DASH", 0x2053), ("INVERTED UNDERTIE", 0x2054),
   ("FLOWER PUNCTUATION MARK", 0x2055), ("THREE DOT PUNCTUATION", 0x2056),
   ("QUADRUPLE PRIME", 0x2057), ("FOUR DOT PUNCTUATION", 0x2058), ("FIVE DOT PUNCTUATION", 0x2059),
   ("TWO DOT PUNCTUATION", 0x205a), ("FOUR DOT MARK", 0x205b), ("DOTTED CROSS", 0x205c),
   ("TRICOLON", 0x205d), ("VERTICAL FOUR DOTS", 0x205e), ("MEDIUM MATHEMATICAL SPACE", 0x205f),
   ("MMSP", 0x205f), ("WJ", 0x2060), ("WORD JOINER", 0x2060), ("FUNCTION APPLICATION", 0x2061),
   ("INVISIBLE TIMES", 0x2062), ("INVISIBLE SEPARATOR", 0x2063), ("INVISIBLE PLUS", 0x2064),
   ("SUPERSCRIPT ZERO", 0x2070), ("SUPERSCRIPT LATIN SMALL LETTER I", 0x2071),
   ("SUPERSCRIPT FOUR", 0x2074), ("SUPERSCRIPT FIVE", 0x2075), ("SUPERSCRIPT SIX", 0x2076),
   ("SUPERSCRIPT SEVEN", 0x2077), ("SUPERSCRIPT EIGHT", 0x2078), ("SUPERSCRIPT NINE", 0x2079),
   ("SUPERSCRIPT PLUS SIGN", 0x207a), ("SUPERSCRIPT MINUS", 0x207b),
   ("SUPERSCRIPT EQUALS SIGN", 0x207c), ("SUPERSCRIPT LEFT PARENTHESIS", 0x207d),
   ("SUPERSCRIPT RIGHT PARENTHESIS", 0x207e), ("SUPERSCRIPT LATIN SMALL LETTER N", 0x207f),
   ("SUBSCRIPT ZERO", 0x2080), ("SUBSCRIPT ONE", 0x2081), ("SUBSCRIPT TWO", 0x2082),
   ("SUBSCRIPT THREE", 0x2083), ("SUBSCRIPT FOUR", 0x2084), ("SUBSCRIPT FIVE", 0x2085),
   ("SUBSCRIPT SIX", 0x2086), ("SUBSCRIPT SEVEN", 0x2087), ("SUBSCRIPT EIGHT", 0x2088),
   ("SUBSCRIPT NINE", 0x2089), ("SUBSCRIPT PLUS SIGN", 0x208a), ("SUBSCRIPT MINUS", 0x208b),
   ("SUBSCRIPT EQUALS SIGN", 0x208c), ("SUBSCRIPT LEFT PARENTHESIS", 0x208d),
   ("SUBSCRIPT RIGHT PARENTHESIS", 0x208e), ("LATIN SUBSCRIPT SMALL LETTER A", 0x2090),
   ("LATIN SUBSCRIPT SMALL LETTER E", 0x2091), ("LATIN SUBSCRIPT SMALL LETTER O", 0x2092),
   ("LATIN SUBSCRIPT SMALL LETTER X", 0x2093), ("LATIN SUBSCRIPT SMALL LETTER SCHWA", 0x2094),
   ("LATIN SUBSCRIPT SMALL LETTER H", 0x2095), ("LATIN SUBSCRIPT SMALL LETTER K", 0x2096),
   ("LATIN SUBSCRIPT SMALL LETTER L", 0x2097), ("LATIN SUBSCRIPT SMALL LETTER M", 0x2098),
   ("LATIN SUBSCRIPT SMALL LETTER N", 0x2099), ("LATIN SUBSCRIPT SMALL LETTER P", 0x209a),
   ("LATIN SUBSCRIPT SMALL LETTER S", 0x209b), ("LATIN SUBSCRIPT SMALL LETTER T", 0x209c),
   ("EURO-CURRENCY SIGN", 0x20a0), ("COLON SIGN", 0x20a1), ("CRUZEIRO SIGN", 0x20a2),
   ("FRENCH FRANC SIGN", 0x20a3), ("LIRA SIGN", 0x20a4), ("MILL SIGN", 0x20a5),
   ("NAIRA SIGN", 0x20a6), ("PESETA SIGN", 0x20a7), ("RUPEE SIGN", 0x20a8), ("WON SIGN", 0x20a9),
   ("NEW SHEQEL SIGN", 0x20aa), ("DONG SIGN", 0x20ab), ("EURO SIGN", 0x20ac), ("KIP SIGN", 0x20ad),
   ("TUGRIK SIGN", 0x20ae), ("DRACHMA SIGN", 0x20af), ("GERMAN PENNY SIGN", 0x20b0),
   ("PESO SIGN", 0x20b1), ("GUARANI SIGN", 0x20b2), ("AUSTRAL SIGN", 0x20b3),
   ("HRYVNIA SIGN", 0x20b4), ("CEDI SIGN", 0x20b5), ("LIVRE TOURNOIS SIGN", 0x20b6),
   ("SPESMILO SIGN", 0x20b7), ("TENGE SIGN", 0x20b8), ("INDIAN RUPEE SIGN", 0x20b9),
   ("TURKISH LIRA SIGN", 0x20ba), ("NORDIC MARK SIGN", 0x20bb), ("MANAT SIGN", 0x20bc),
   ("RUBLE SIGN", 0x20bd), ("LARI SIGN", 0x20be), ("BITCOIN SIGN", 0x20bf), ("SOM SIGN", 0x20c0),
   ("ACCOUNT OF", 0x2100), ("ADDRESSED TO THE SUBJECT", 0x2101),
   ("DOUBLE-STRUCK CAPITAL C", 0x2102), ("DEGREE CELSIUS", 0x2103), ("CENTRE LINE SYMBOL", 0x2104),
   ("CARE OF", 0x2105), ("CADA UNA", 0x2106), ("EULER CONSTANT", 0x2107), ("SCRUPLE", 0x2108),
   ("DEGREE FAHRENHEIT", 0x2109), ("SCRIPT SMALL G", 0x210a), ("SCRIPT CAPITAL H", 0x210b),
   ("BLACK-LETTER CAPITAL H", 0x210c), ("DOUBLE-STRUCK CAPITAL H", 0x210d),
   ("PLANCK CONSTANT", 0x210e), ("PLANCK CONSTANT OVER TWO PI", 0x210f),
   ("SCRIPT CAPITAL I", 0x2110), ("BLACK-LETTER CAPITAL I", 0x2111), ("SCRIPT CAPITAL L", 0x2112),
   ("SCRIPT SMALL L", 0x2113), ("L B BAR SYMBOL", 0x2114), ("DOUBLE-STRUCK CAPITAL N", 0x2115),
   ("NUMERO SIGN", 0x2116), ("SOUND RECORDING COPYRIGHT", 0x2117), ("SCRIPT CAPITAL P", 0x2118),
   ("DOUBLE-STRUCK CAPITAL P", 0x2119), ("DOUBLE-STRUCK CAPITAL Q", 0x211a),
   ("SCRIPT CAPITAL R", 0x211b), ("BLACK-LETTER CAPITAL R", 0x211c),
   ("DOUBLE-STRUCK CAPITAL R", 0x211d), ("PRESCRIPTION TAKE", 0x211e), ("RESPONSE", 0x211f),
   ("SERVICE MARK", 0x2120), ("TELEPHONE SIGN", 0x2121), ("TRADE MARK SIGN", 0x2122),
   ("VERSICLE", 0x2123), ("DOUBLE-STRUCK CAPITAL Z", 0x2124), ("OUNCE SIGN", 0x2125),
   ("OHM SIGN", 0x2126), ("INVERTED OHM SIGN", 0x2127), ("BLACK-LETTER CAPITAL Z", 0x2128),
   ("TURNED GREEK SMALL LETTER IOTA", 0x2129), ("KELVIN SIGN", 0x212a), ("ANGSTROM SIGN", 0x212b),
   ("SCRIPT CAPITAL B", 0x212c), ("BLACK-LETTER CAPITAL C", 0x212d), ("ESTIMATED SYMBOL", 0x212e),
   ("SCRIPT SMALL E", 0x212f), ("SCRIPT CAPITAL E", 0x2130), ("SCRIPT CAPITAL F", 0x2131),
   ("TURNED CAPITAL F", 0x2132), ("SCRIPT CAPITAL M", 0x2133), ("SCRIPT SMALL O", 0x2134),
   ("ALEF SYMBOL", 0x2135), ("BET SYMBOL", 0x2136), ("GIMEL SYMBOL", 0x2137),
   ("DALET SYMBOL", 0x2138), ("INFORMATION SOURCE", 0x2139), ("ROTATED CAPITAL Q", 0x213a),
   ("FACSIMILE SIGN", 0x213b), ("DOUBLE-STRUCK SMALL PI", 0x213c),
   ("DOUBLE-STRUCK SMALL GAMMA", 0x213d), ("DOUBLE-STRUCK CAPITAL GAMMA", 0x213e),
   ("DOUBLE-STRUCK CAPITAL PI", 0x213f), ("DOUBLE-STRUCK N-ARY SUMMATION", 0x2140),
   ("TURNED SANS-SERIF CAPITAL G", 0x2141), ("TURNED SANS-SERIF CAPITAL L", 0x2142),
   ("REVERSED SANS-SERIF CAPITAL L", 0x2143), ("TURNED SANS-SERIF CAPITAL Y", 0x2144),
   ("DOUBLE-STRUCK ITALIC CAPITAL D", 0x2145), ("DOUBLE-STRUCK ITALIC SMALL D", 0x2146),
   ("DOUBLE-STRUCK ITALIC SMALL E", 0x2147), ("DOUBLE-STRUCK ITALIC SMALL I", 0x2148),
   ("DOUBLE-STRUCK ITALIC SMALL J", 0x2149), ("PROPERTY LINE", 0x214a),
   ("TURNED AMPERSAND", 0x214b), ("PER SIGN", 0x214c), ("AKTIESELSKAB", 0x214d),
   ("TURNED SMALL F", 0x214e), ("SYMBOL FOR SAMARITAN SOURCE", 0x214f),
   ("VULGAR FRACTION ONE SEVENTH", 0x2150), ("VULGAR FRACTION ONE NINTH", 0x2151),
   ("VULGAR FRACTION ONE TENTH", 0x2152), ("VULGAR FRACTION ONE THIRD", 0x2153),
   ("VULGAR FRACTION TWO THIRDS", 0x2154), ("VULGAR FRACTION ONE FIFTH", 0x2155),
   ("VULGAR FRACTION TWO FIFTHS", 0x2156), ("VULGAR FRACTION THREE FIFTHS", 0x2157),
   ("VULGAR FRACTION FOUR FIFTHS", 0x2158), ("VULGAR FRACTION ONE SIXTH", 0x2159),
   ("VULGAR FRACTION FIVE SIXTHS", 0x215a), ("VULGAR FRACTION ONE EIGHTH", 0x215b),
   ("VULGAR FRACTION THREE EIGHTHS", 0x215c), ("VULGAR FRACTION FIVE EIGHTHS", 0x215d),
   ("VULGAR FRACTION SEVEN EIGHTHS", 0x215e), ("FRACTION NUMERATOR ONE", 0x215f),
   ("ROMAN NUMERAL ONE", 0x2160), ("ROMAN NUMERAL TWO", 0x2161), ("ROMAN NUMERAL THREE", 0x2162),
   ("ROMAN NUMERAL FOUR", 0x2163), ("ROMAN NUMERAL FIVE", 0x2164), ("ROMAN NUMERAL SIX", 0x2165),
   ("ROMAN NUMERAL SEVEN", 0x2166), ("ROMAN NUMERAL EIGHT", 0x2167), ("ROMAN NUMERAL NINE", 0x2168),
   ("ROMAN NUMERAL TEN", 0x2169), ("ROMAN NUMERAL ELEVEN", 0x216a),
   ("ROMAN NUMERAL TWELVE", 0x216b), ("ROMAN NUMERAL FIFTY", 0x216c),
   ("ROMAN NUMERAL ONE HUNDRED", 0x216d), ("ROMAN NUMERAL FIVE HUNDRED", 0x216e),
   ("ROMAN NUMERAL ONE THOUSAND", 0x216f), ("SMALL ROMAN NUMERAL ONE", 0x2170),
   ("SMALL ROMAN NUMERAL TWO", 0x2171), ("SMALL ROMAN NUMERAL THREE", 0x2172),
   ("SMALL ROMAN NUMERAL FOUR", 0x2173), ("SMALL ROMAN NUMERAL FIVE", 0x2174),
   ("SMALL ROMAN NUMERAL SIX", 0x2175), ("SMALL ROMAN NUMERAL SEVEN", 0x2176),
   ("SMALL ROMAN NUMERAL EIGHT", 0x2177), ("SMALL ROMAN NUMERAL NINE", 0x2178),
   ("SMALL ROMAN NUMERAL TEN", 0x2179), ("SMALL ROMAN NUMERAL ELEVEN", 0x217a),
   ("SMALL ROMAN NUMERAL TWELVE", 0x217b), ("SMALL ROMAN NUMERAL FIFTY", 0x217c),
   ("SMALL ROMAN NUMERAL ONE HUNDRED", 0x217d), ("SMALL ROMAN NUMERAL FIVE HUNDRED", 0x217e),
   ("SMALL ROMAN NUMERAL ONE THOUSAND", 0x217f), ("ROMAN NUMERAL ONE THOUSAND C D", 0x2180),
   ("ROMAN NUMERAL FIVE THOUSAND", 0x2181), ("ROMAN NUMERAL TEN THOUSAND", 0x2182),
   ("ROMAN NUMERAL REVERSED ONE HUNDRED", 0x2183), ("LATIN SMALL LETTER REVERSED C", 0x2184),
   ("ROMAN NUMERAL SIX LATE FORM", 0x2185), ("ROMAN NUMERAL FIFTY EARLY FORM", 0x2186),
   ("ROMAN NUMERAL FIFTY THOUSAND", 0x2187), ("ROMAN NUMERAL ONE HUNDRED THOUSAND", 0x2188),
   ("LEFTWARDS ARROW", 0x2190), ("UPWARDS ARROW", 0x2191), ("RIGHTWARDS ARROW", 0x2192),
   ("DOWNWARDS ARROW", 0x2193), ("LEFT RIGHT ARROW", 0x2194), ("UP DOWN ARROW", 0x2195),
   ("NORTH WEST ARROW", 0x2196), ("NORTH EAST ARROW", 0x2197), ("SOUTH EAST ARROW", 0x2198),
   ("SOUTH WEST ARROW", 0x2199), ("FOR ALL", 0x2200), ("COMPLEMENT", 0x2201),
   ("PARTIAL DIFFERENTIAL", 0x2202), ("THERE EXISTS", 0x2203), ("THERE DOES NOT EXIST", 0x2204),
   ("EMPTY SET", 0x2205), ("INCREMENT", 0x2206), ("NABLA", 0x2207), ("ELEMENT OF", 0x2208),
   ("NOT AN ELEMENT OF", 0x2209), ("SMALL ELEMENT OF", 0x220a), ("CONTAINS AS MEMBER", 0x220b),
   ("DOES NOT CONTAIN AS MEMBER", 0x220c), ("SMALL CONTAINS AS MEMBER", 0x220d),
   ("END OF PROOF", 0x220e), ("N-ARY PRODUCT", 0x220f), ("N-ARY COPRODUCT", 0x2210),
   ("N-ARY SUMMATION", 0x2211), ("MINUS SIGN", 0x2212), ("MINUS-OR-PLUS SIGN", 0x2213),
   ("DOT PLUS", 0x2214), ("DIVISION SLASH", 0x2215), ("SET MINUS", 0x2216),
   ("ASTERISK OPERATOR", 0x2217), ("RING OPERATOR", 0x2218), ("BULLET OPERATOR", 0x2219),
   ("SQUARE ROOT", 0x221a), ("CUBE ROOT", 0x221b), ("FOURTH ROOT", 0x221c),
   ("PROPORTIONAL TO", 0x221d), ("INFINITY", 0x221e), ("RIGHT ANGLE", 0x221f), ("ANGLE", 0x2220),
   ("MEASURED ANGLE", 0x2221), ("SPHERICAL ANGLE", 0x2222), ("DIVIDES", 0x2223),
   ("DOES NOT DIVIDE", 0x2224), ("PARALLEL TO", 0x2225), ("NOT PARALLEL TO", 0x2226),
   ("LOGICAL AND", 0x2227), ("LOGICAL OR", 0x2228), ("INTERSECTION", 0x2229), ("UNION", 0x222a),
   ("INTEGRAL", 0x222b), ("DOUBLE INTEGRAL", 0x222c), ("TRIPLE INTEGRAL", 0x222d),
   ("CONTOUR INTEGRAL", 0x222e), ("SURFACE INTEGRAL", 0x222f), ("VOLUME INTEGRAL", 0x2230),
   ("CLOCKWISE INTEGRAL", 0x2231), ("CLOCKWISE CONTOUR INTEGRAL", 0x2232),
   ("ANTICLOCKWISE CONTOUR INTEGRAL", 0x2233), ("THEREFORE", 0x2234), ("BECAUSE", 0x2235),
   ("RATIO", 0x2236), ("PROPORTION", 0x2237), ("DOT MINUS", 0x2238), ("EXCESS", 0x2239),
   ("GEOMETRIC PROPORTION", 0x223a), ("HOMOTHETIC", 0x223b), ("TILDE OPERATOR", 0x223c),
   ("REVERSED TILDE", 0x223d), ("INVERTED LAZY S", 0x223e), ("SINE WAVE", 0x223f),
   ("WREATH PRODUCT", 0x2240), ("NOT TILDE", 0x2241), ("MINUS TILDE", 0x2242),
   ("ASYMPTOTICALLY EQUAL TO", 0x2243), ("NOT ASYMPTOTICALLY EQUAL TO", 0x2244),
   ("APPROXIMATELY EQUAL TO", 0x2245), ("APPROXIMATELY BUT NOT ACTUALLY EQUAL TO", 0x2246),
   ("NEITHER APPROXIMATELY NOR ACTUALLY EQUAL TO", 0x2247), ("ALMOST EQUAL TO", 0x2248),
   ("NOT ALMOST EQUAL TO", 0x2249), ("ALMOST EQUAL OR EQUAL TO", 0x224a), ("TRIPLE TILDE", 0x224b),
   ("ALL EQUAL TO", 0x224c), ("EQUIVALENT TO", 0x224d), ("GEOMETRICALLY EQUIVALENT TO", 0x224e),
   ("DIFFERENCE BETWEEN", 0x224f), ("APPROACHES THE LIMIT", 0x2250),
   ("GEOMETRICALLY EQUAL TO", 0x2251), ("APPROXIMATELY EQUAL TO OR THE IMAGE OF", 0x2252),
   ("IMAGE OF OR APPROXIMATELY EQUAL TO", 0x2253), ("COLON EQUALS", 0x2254),
   ("EQUALS COLON", 0x2255), ("RING IN EQUAL TO", 0x2256), ("RING EQUAL TO", 0x2257),
   ("CORRESPONDS TO", 0x2258), ("ESTIMATES", 0x2259), ("EQUIANGULAR TO", 0x225a),
   ("STAR EQUALS", 0x225b), ("DELTA EQUAL TO", 0x225c), ("EQUAL TO BY DEFINITION", 0x225d),
   ("MEASURED BY", 0x225e), ("QUESTIONED EQUAL TO", 0x225f), ("NOT EQUAL TO", 0x2260),
   ("IDENTICAL TO", 0x2261), ("NOT IDENTICAL TO", 0x2262), ("STRICTLY EQUIVALENT TO", 0x2263),
   ("LESS-THAN OR EQUAL TO", 0x2264), ("GREATER-THAN OR EQUAL TO", 0x2265),
   ("CIRCLED DIGIT ONE", 0x2460), ("CIRCLED DIGIT TWO", 0x2461), ("CIRCLED DIGIT THREE", 0x2462),
   ("CIRCLED DIGIT FOUR", 0x2463), ("CIRCLED DIGIT FIVE", 0x2464), ("CIRCLED DIGIT SIX", 0x2465),
   ("CIRCLED DIGIT SEVEN", 0x2466), ("CIRCLED DIGIT EIGHT", 0x2467), ("CIRCLED DIGIT NINE", 0x2468),
   ("CIRCLED NUMBER TEN", 0x2469), ("BLACK SQUARE", 0x25a0), ("WHITE SQUARE", 0x25a1),
   ("WHITE CIRCLE", 0x25cb), ("DOTTED CIRCLE", 0x25cc), ("CIRCLE WITH VERTICAL FILL", 0x25cd),
   ("BULLSEYE", 0x25ce), ("BLACK CIRCLE", 0x25cf), ("BLACK SUN WITH RAYS", 0x2600),
   ("CLOUD", 0x2601), ("UMBRELLA", 0x2602), ("SNOWMAN", 0x2603), ("COMET", 0x2604),
   ("BLACK STAR", 0x2605), ("WHITE STAR", 0x2606), ("BALLOT BOX", 0x2610),
   ("BALLOT BOX WITH CHECK", 0x2611), ("BALLOT BOX WITH X", 0x2612),
   ("SKULL AND CROSSBONES", 0x2620), ("RADIOACTIVE SIGN", 0x2622), ("BIOHAZARD SIGN", 0x2623),
   ("WHITE SMILING FACE", 0x263a), ("BLACK SPADE SUIT", 0x2660), ("WHITE HEART SUIT", 0x2661),
   ("WHITE DIAMOND SUIT", 0x2662), ("BLACK CLUB SUIT", 0x2663), ("WHITE SPADE SUIT", 0x2664),
   ("BLACK HEART SUIT", 0x2665), ("BLACK DIAMOND SUIT", 0x2666), ("WHITE CLUB SUIT", 0x2667),
   ("WARNING SIGN", 0x26a0), ("HIGH VOLTAGE SIGN", 0x26a1), ("WHITE HEAVY CHECK MARK", 0x2705),
   ("CHECK MARK", 0x2713), ("HEAVY CHECK MARK", 0x2714), ("MULTIPLICATION X", 0x2715),
   ("HEAVY MULTIPLICATION X", 0x2716), ("BALLOT X", 0x2717), ("HEAVY BALLOT X", 0x2718),
   ("SPARKLES", 0x2728), ("CROSS MARK", 0x274c), ("HEAVY BLACK HEART", 0x2764),
   ("BRAILLE PATTERN BLANK", 0x2800), ("IDEOGRAPHIC SPACE", 0x3000), ("IDEOGRAPHIC COMMA", 0x3001),
   ("IDEOGRAPHIC FULL STOP", 0x3002), ("HIRAGANA LETTER SMALL A", 0x3041),
   ("HIRAGANA LETTER A", 0x3042), ("HIRAGANA LETTER SMALL I", 0x3043),
   ("HIRAGANA LETTER I", 0x3044), ("HIRAGANA LETTER SMALL U", 0x3045),
   ("HIRAGANA LETTER U", 0x3046), ("HIRAGANA LETTER SMALL E", 0x3047),
   ("HIRAGANA LETTER E", 0x3048), ("HIRAGANA LETTER SMALL O", 0x3049),
   ("HIRAGANA LETTER O", 0x304a), ("KATAKANA LETTER SMALL A", 0x30a1),
   ("KATAKANA LETTER A", 0x30a2), ("KATAKANA LETTER SMALL I", 0x30a3),
   ("KATAKANA LETTER I", 0x30a4), ("KATAKANA LETTER SMALL U", 0x30a5),
   ("KATAKANA LETTER U", 0x30a6), ("KATAKANA LETTER SMALL E", 0x30a7),
   ("KATAKANA LETTER E", 0x30a8), ("KATAKANA LETTER SMALL O", 0x30a9),
   ("KATAKANA LETTER O", 0x30aa), ("LATIN SMALL LIGATURE FF", 0xfb00),
   ("LATIN SMALL LIGATURE FI", 0xfb01), ("LATIN SMALL LIGATURE FL", 0xfb02),
   ("LATIN SMALL LIGATURE FFI", 0xfb03), ("LATIN SMALL LIGATURE FFL", 0xfb04),
   ("LATIN SMALL LIGATURE LONG S T", 0xfb05), ("LATIN SMALL LIGATURE ST", 0xfb06), ("BOM", 0xfeff),
   ("BYTE ORDER MARK", 0xfeff), ("ZERO WIDTH NO-BREAK SPACE", 0xfeff), ("ZWNBSP", 0xfeff),
   ("FULLWIDTH DIGIT ZERO", 0xff10), ("FULLWIDTH DIGIT ONE", 0xff11),
   ("FULLWIDTH DIGIT TWO", 0xff12), ("FULLWIDTH DIGIT THREE", 0xff13),
   ("FULLWIDTH DIGIT FOUR", 0xff14), ("FULLWIDTH DIGIT FIVE", 0xff15),
   ("FULLWIDTH DIGIT SIX", 0xff16), ("FULLWIDTH DIGIT SEVEN", 0xff17),
   ("FULLWIDTH DIGIT EIGHT", 0xff18), ("FULLWIDTH DIGIT NINE", 0xff19),
   ("FULLWIDTH LATIN CAPITAL LETTER A", 0xff21), ("FULLWIDTH LATIN CAPITAL LETTER B", 0xff22),
   ("FULLWIDTH LATIN SMALL LETTER A", 0xff41), ("FULLWIDTH LATIN SMALL LETTER B", 0xff42),
   ("OBJECT REPLACEMENT CHARACTER", 0xfffc), ("REPLACEMENT CHARACTER", 0xfffd),
   ("MATHEMATICAL BOLD DIGIT ZERO", 0x1d7ce), ("MATHEMATICAL BOLD DIGIT ONE", 0x1d7cf),
   ("MATHEMATICAL BOLD DIGIT TWO", 0x1d7d0), ("MATHEMATICAL BOLD DIGIT THREE", 0x1d7d1),
   ("CYCLONE", 0x1f300), ("FOGGY", 0x1f301), ("CLOSED UMBRELLA", 0x1f302),
   ("NIGHT WITH STARS", 0x1f303), ("SUNRISE OVER MOUNTAINS", 0x1f304), ("SUNRISE", 0x1f305),
   ("CITYSCAPE AT DUSK", 0x1f306), ("SUNSET OVER BUILDINGS", 0x1f307), ("RAINBOW", 0x1f308),
   ("BRIDGE AT NIGHT", 0x1f309), ("WATER WAVE", 0x1f30a), ("VOLCANO", 0x1f30b),
   ("MILKY WAY", 0x1f30c), ("EARTH GLOBE EUROPE-AFRICA", 0x1f30d), ("PARTY POPPER", 0x1f389),
   ("SNAKE", 0x1f40d), ("PILE OF POO", 0x1f4a9), ("GRINNING FACE", 0x1f600),
   ("GRINNING FACE WITH SMILING EYES", 0x1f601), ("FACE WITH TEARS OF JOY", 0x1f602),
   ("SMILING FACE WITH OPEN MOUTH", 0x1f603),
   ("SMILING FACE WITH OPEN MOUTH AND SMILING EYES", 0x1f604),
   ("SMILING FACE WITH OPEN MOUTH AND COLD SWEAT", 0x1f605),
   ("SMILING FACE WITH OPEN MOUTH AND TIGHTLY-CLOSED EYES", 0x1f606),
   ("SMILING FACE WITH HALO", 0x1f607), ("SMILING FACE WITH HORNS", 0x1f608),
   ("WINKING FACE", 0x1f609), ("SMILING FACE WITH SMILING EYES", 0x1f60a),
   ("FACE SAVOURING DELICIOUS FOOD", 0x1f60b), ("RELIEVED FACE", 0x1f60c),
   ("SMILING FACE WITH HEART-SHAPED EYES", 0x1f60d), ("SMILING FACE WITH SUNGLASSES", 0x1f60e),
   ("SMIRKING FACE", 0x1f60f), ("NEUTRAL FACE", 0x1f610), ("EXPRESSIONLESS FACE", 0x1f611),
   ("UNAMUSED FACE", 0x1f612), ("FACE WITH COLD SWEAT", 0x1f613), ("PENSIVE FACE", 0x1f614),
   ("CONFUSED FACE", 0x1f615), ("CONFOUNDED FACE", 0x1f616), ("KISSING FACE", 0x1f617),
   ("FACE THROWING A KISS", 0x1f618), ("KISSING FACE WITH SMILING EYES", 0x1f619),
   ("KISSING FACE WITH CLOSED EYES", 0x1f61a), ("FACE WITH STUCK-OUT TONGUE", 0x1f61b),
   ("FACE WITH STUCK-OUT TONGUE AND WINKING EYE", 0x1f61c),
   ("FACE WITH STUCK-OUT TONGUE AND TIGHTLY-CLOSED EYES", 0x1f61d), ("DISAPPOINTED FACE", 0x1f61e),
   ("WORRIED FACE", 0x1f61f), ("ANGRY FACE", 0x1f620), ("POUTING FACE", 0x1f621),
   ("CRYING FACE", 0x1f622), ("PERSEVERING FACE", 0x1f623), ("FACE WITH LOOK OF TRIUMPH", 0x1f624),
   ("DISAPPOINTED BUT RELIEVED FACE", 0x1f625), ("FROWNING FACE WITH OPEN MOUTH", 0x1f626),
   ("ANGUISHED FACE", 0x1f627), ("FEARFUL FACE", 0x1f628), ("WEARY FACE", 0x1f629),
   ("SLEEPY FACE", 0x1f62a), ("TIRED FACE", 0x1f62b), ("GRIMACING FACE", 0x1f62c),
   ("LOUDLY CRYING FACE", 0x1f62d), ("FACE WITH OPEN MOUTH", 0x1f62e), ("HUSHED FACE", 0x1f62f),
   ("FACE WITH OPEN MOUTH AND COLD SWEAT", 0x1f630), ("FACE SCREAMING IN FEAR", 0x1f631),
   ("ASTONISHED FACE", 0x1f632), ("FLUSHED FACE", 0x1f633), ("SLEEPING FACE", 0x1f634),
   ("DIZZY FACE", 0x1f635), ("FACE WITHOUT MOUTH", 0x1f636), ("FACE WITH MEDICAL MASK", 0x1f637),
   ("GRINNING CAT FACE WITH SMILING EYES", 0x1f638), ("CAT FACE WITH TEARS OF JOY", 0x1f639),
   ("SMILING CAT FACE WITH OPEN MOUTH", 0x1f63a),
   ("SMILING CAT FACE WITH HEART-SHAPED EYES", 0x1f63b), ("CAT FACE WITH WRY SMILE", 0x1f63c),
   ("KISSING CAT FACE WITH CLOSED EYES", 0x1f63d), ("POUTING CAT FACE", 0x1f63e),
   ("CRYING CAT FACE", 0x1f63f), ("WEARY CAT FACE", 0x1f640), ("SLIGHTLY FROWNING FACE", 0x1f641),
   ("SLIGHTLY SMILING FACE", 0x1f642), ("UPSIDE-DOWN FACE", 0x1f643),
   ("FACE WITH ROLLING EYES", 0x1f644), ("FACE WITH NO GOOD GESTURE", 0x1f645),
   ("FACE WITH OK GESTURE", 0x1f646), ("PERSON BOWING DEEPLY", 0x1f647),
   ("SEE-NO-EVIL MONKEY", 0x1f648), ("HEAR-NO-EVIL MONKEY", 0x1f649),
   ("SPEAK-NO-EVIL MONKEY", 0x1f64a), ("HAPPY PERSON RAISING ONE HAND", 0x1f64b),
   ("PERSON RAISING BOTH HANDS IN CELEBRATION", 0x1f64c), ("PERSON FROWNING", 0x1f64d),
   ("PERSON WITH POUTING FACE", 0x1f64e), ("PERSON WITH FOLDED HANDS", 0x1f64f),
   ("ROCKET", 0x1f680)]

/-- The capital of a plain letter. -/
def plainUpper (c : Char) : Char := if 'a' ≤ c ∧ c ≤ 'z' then Char.ofNat (c.toNat - 32) else c

/-- The unified ideographs. -/
def ideographRanges : Ranges :=
  [
   (0x3400, 0x4dbf), (0x4e00, 0x9fff), (0x20000, 0x2a6df), (0x2a700, 0x2b738),
   (0x2b740, 0x2b81d), (0x2b820, 0x2cea1), (0x2ceb0, 0x2ebe0), (0x30000, 0x3134a)]

/-- How the name of an ideograph starts. -/
def ideographStart : List Char := "CJK UNIFIED IDEOGRAPH-".toList

/-- The value of a capital hexadecimal digit. -/
def capitalHexDigit? (c : Char) : Option Nat :=
  if '0' ≤ c ∧ c ≤ '9' then some (c.toNat - 48)
  else if 'A' ≤ c ∧ c ≤ 'F' then some (c.toNat - 55)
  else none

/-- The ideograph that is named by its number of four or five digits. -/
def ideograph? (name : List Char) : Option Nat :=
  let digits := name.drop ideographStart.length
  if ideographStart.isPrefixOf name && (digits.length = 4 || digits.length = 5) then
    ((digits.mapM capitalHexDigit?).map (·.foldl (fun n d => 16 * n + d) 0)).filter
      ideographRanges.contains
  else none

/-- The code point of a named character. -/
def namedCharacter? (name : List Char) : Option Nat :=
  (ideograph? name).or
    ((characterNames.find? fun e => e.1 = String.ofList (name.map plainUpper)).map Prod.snd)

end ConfigVars.Text
