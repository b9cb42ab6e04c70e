/-!
# Character names

The names by which a pattern may call a character: those of the Latin, Greek and Cyrillic letters,
of punctuation, currency signs, arrows and mathematical operators, and the aliases of the control
characters. The names of other scripts and symbols are left out.
-/
namespace PropertyDocs.Text

/-- Aliases of controls and of characters that show nothing. -/
def controlNames : List (Nat × String) :=
  [(0x0, "NULL"), (0x0, "NUL"), (0x1, "START OF HEADING"), (0x1, "SOH"), (0x2, "START OF TEXT"),
  (0x3, "END OF TEXT"), (0x4, "END OF TRANSMISSION"), (0x5, "ENQUIRY"), (0x6, "ACKNOWLEDGE"),
  (0x7, "ALERT"), (0x7, "BEL"), (0x8, "BACKSPACE"), (0x8, "BS"), (0x9, "CHARACTER TABULATION"),
  (0x9, "HORIZONTAL TABULATION"), (0x9, "HT"), (0x9, "TAB"), (0xa, "LINE FEED"),
  (0xa, "NEW LINE"), (0xa, "END OF LINE"), (0xa, "LF"), (0xa, "NL"), (0xa, "EOL"),
  (0xb, "LINE TABULATION"), (0xb, "VERTICAL TABULATION"), (0xb, "VT"), (0xc, "FORM FEED"),
  (0xc, "FF"), (0xd, "CARRIAGE RETURN"), (0xd, "CR"), (0x1b, "ESCAPE"), (0x1b, "ESC"),
  (0x7f, "DELETE"), (0x7f, "DEL"), (0x20, "SP"), (0xa0, "NBSP"), (0xad, "SHY"), (0x200b, "ZWSP"),
  (0x200c, "ZWNJ"), (0x200d, "ZWJ"), (0x200e, "LRM"), (0x200f, "RLM"), (0xfeff, "BOM"),
  (0xfeff, "ZWNBSP")]

/-- Names from 0x20 to 0x17f. -/
def latinNames : List (Nat × String) :=
  [(0x20, "SPACE"), (0x21, "EXCLAMATION MARK"), (0x22, "QUOTATION MARK"), (0x23, "NUMBER SIGN"),
  (0x24, "DOLLAR SIGN"), (0x25, "PERCENT SIGN"), (0x26, "AMPERSAND"), (0x27, "APOSTROPHE"),
  (0x28, "LEFT PARENTHESIS"), (0x29, "RIGHT PARENTHESIS"), (0x2a, "ASTERISK"),
  (0x2b, "PLUS SIGN"), (0x2c, "COMMA"), (0x2d, "HYPHEN-MINUS"), (0x2e, "FULL STOP"),
  (0x2f, "SOLIDUS"), (0x30, "DIGIT ZERO"), (0x31, "DIGIT ONE"), (0x32, "DIGIT TWO"),
  (0x33, "DIGIT THREE"), (0x34, "DIGIT FOUR"), (0x35, "DIGIT FIVE"), (0x36, "DIGIT SIX"),
  (0x37, "DIGIT SEVEN"), (0x38, "DIGIT EIGHT"), (0x39, "DIGIT NINE"), (0x3a, "COLON"),
  (0x3b, "SEMICOLON"), (0x3c, "LESS-THAN SIGN"), (0x3d, "EQUALS SIGN"),
  (0x3e, "GREATER-THAN SIGN"), (0x3f, "QUESTION MARK"), (0x40, "COMMERCIAL AT"),
  (0x41, "LATIN CAPITAL LETTER A"), (0x42, "LATIN CAPITAL LETTER B"),
  (0x43, "LATIN CAPITAL LETTER C"), (0x44, "LATIN CAPITAL LETTER D"),
  (0x45, "LATIN CAPITAL LETTER E"), (0x46, "LATIN CAPITAL LETTER F"),
  (0x47, "LATIN CAPITAL LETTER G"), (0x48, "LATIN CAPITAL LETTER H"),
  (0x49, "LATIN CAPITAL LETTER I"), (0x4a, "LATIN CAPITAL LETTER J"),
  (0x4b, "LATIN CAPITAL LETTER K"), (0x4c, "LATIN CAPITAL LETTER L"),
  (0x4d, "LATIN CAPITAL LETTER M"), (0x4e, "LATIN CAPITAL LETTER N"),
  (0x4f, "LATIN CAPITAL LETTER O"), (0x50, "LATIN CAPITAL LETTER P"),
  (0x51, "LATIN CAPITAL LETTER Q"), (0x52, "LATIN CAPITAL LETTER R"),
  (0x53, "LATIN CAPITAL LETTER S"), (0x54, "LATIN CAPITAL LETTER T"),
  (0x55, "LATIN CAPITAL LETTER U"), (0x56, "LATIN CAPITAL LETTER V"),
  (0x57, "LATIN CAPITAL LETTER W"), (0x58, "LATIN CAPITAL LETTER X"),
  (0x59, "LATIN CAPITAL LETTER Y"), (0x5a, "LATIN CAPITAL LETTER Z"),
  (0x5b, "LEFT SQUARE BRACKET"), (0x5c, "REVERSE SOLIDUS"), (0x5d, "RIGHT SQUARE BRACKET"),
  (0x5e, "CIRCUMFLEX ACCENT"), (0x5f, "LOW LINE"), (0x60, "GRAVE ACCENT"),
  (0x61, "LATIN SMALL LETTER A"), (0x62, "LATIN SMALL LETTER B"), (0x63, "LATIN SMALL LETTER C"),
  (0x64, "LATIN SMALL LETTER D"), (0x65, "LATIN SMALL LETTER E"), (0x66, "LATIN SMALL LETTER F"),
  (0x67, "LATIN SMALL LETTER G"), (0x68, "LATIN SMALL LETTER H"), (0x69, "LATIN SMALL LETTER I"),
  (0x6a, "LATIN SMALL LETTER J"), (0x6b, "LATIN SMALL LETTER K"), (0x6c, "LATIN SMALL LETTER L"),
  (0x6d, "LATIN SMALL LETTER M"), (0x6e, "LATIN SMALL LETTER N"), (0x6f, "LATIN SMALL LETTER O"),
  (0x70, "LATIN SMALL LETTER P"), (0x71, "LATIN SMALL LETTER Q"), (0x72, "LATIN SMALL LETTER R"),
  (0x73, "LATIN SMALL LETTER S"), (0x74, "LATIN SMALL LETTER T"), (0x75, "LATIN SMALL LETTER U"),
  (0x76, "LATIN SMALL LETTER V"), (0x77, "LATIN SMALL LETTER W"), (0x78, "LATIN SMALL LETTER X"),
  (0x79, "LATIN SMALL LETTER Y"), (0x7a, "LATIN SMALL LETTER Z"), (0x7b, "LEFT CURLY BRACKET"),
  (0x7c, "VERTICAL LINE"), (0x7d, "RIGHT CURLY BRACKET"), (0x7e, "TILDE"),
  (0xa0, "NO-BREAK SPACE"), (0xa1, "INVERTED EXCLAMATION MARK"), (0xa2, "CENT SIGN"),
  (0xa3, "POUND SIGN"), (0xa4, "CURRENCY SIGN"), (0xa5, "YEN SIGN"), (0xa6, "BROKEN BAR"),
  (0xa7, "SECTION SIGN"), (0xa8, "DIAERESIS"), (0xa9, "COPYRIGHT SIGN"),
  (0xaa, "FEMININE ORDINAL INDICATOR"), (0xab, "LEFT-POINTING DOUBLE ANGLE QUOTATION MARK"),
  (0xac, "NOT SIGN"), (0xad, "SOFT HYPHEN"), (0xae, "REGISTERED SIGN"), (0xaf, "MACRON"),
  (0xb0, "DEGREE SIGN"), (0xb1, "PLUS-MINUS SIGN"), (0xb2, "SUPERSCRIPT TWO"),
  (0xb3, "SUPERSCRIPT THREE"), (0xb4, "ACUTE ACCENT"), (0xb5, "MICRO SIGN"),
  (0xb6, "PILCROW SIGN"), (0xb7, "MIDDLE DOT"), (0xb8, "CEDILLA"), (0xb9, "SUPERSCRIPT ONE"),
  (0xba, "MASCULINE ORDINAL INDICATOR"), (0xbb, "RIGHT-POINTING DOUBLE ANGLE QUOTATION MARK"),
  (0xbc, "VULGAR FRACTION ONE QUARTER"), (0xbd, "VULGAR FRACTION ONE HALF"),
  (0xbe, "VULGAR FRACTION THREE QUARTERS"), (0xbf, "INVERTED QUESTION MARK"),
  (0xc0, "LATIN CAPITAL LETTER A WITH GRAVE"), (0xc1, "LATIN CAPITAL LETTER A WITH ACUTE"),
  (0xc2, "LATIN CAPITAL LETTER A WITH CIRCUMFLEX"), (0xc3, "LATIN CAPITAL LETTER A WITH TILDE"),
  (0xc4, "LATIN CAPITAL LETTER A WITH DIAERESIS"),
  (0xc5, "LATIN CAPITAL LETTER A WITH RING ABOVE"), (0xc6, "LATIN CAPITAL LETTER AE"),
  (0xc7, "LATIN CAPITAL LETTER C WITH CEDILLA"), (0xc8, "LATIN CAPITAL LETTER E WITH GRAVE"),
  (0xc9, "LATIN CAPITAL LETTER E WITH ACUTE"), (0xca, "LATIN CAPITAL LETTER E WITH CIRCUMFLEX"),
  (0xcb, "LATIN CAPITAL LETTER E WITH DIAERESIS"), (0xcc, "LATIN CAPITAL LETTER I WITH GRAVE"),
  (0xcd, "LATIN CAPITAL LETTER I WITH ACUTE"), (0xce, "LATIN CAPITAL LETTER I WITH CIRCUMFLEX"),
  (0xcf, "LATIN CAPITAL LETTER I WITH DIAERESIS"), (0xd0, "LATIN CAPITAL LETTER ETH"),
  (0xd1, "LATIN CAPITAL LETTER N WITH TILDE"), (0xd2, "LATIN CAPITAL LETTER O WITH GRAVE"),
  (0xd3, "LATIN CAPITAL LETTER O WITH ACUTE"), (0xd4, "LATIN CAPITAL LETTER O WITH CIRCUMFLEX"),
  (0xd5, "LATIN CAPITAL LETTER O WITH TILDE"), (0xd6, "LATIN CAPITAL LETTER O WITH DIAERESIS"),
  (0xd7, "MULTIPLICATION SIGN"), (0xd8, "LATIN CAPITAL LETTER O WITH STROKE"),
  (0xd9, "LATIN CAPITAL LETTER U WITH GRAVE"), (0xda, "LATIN CAPITAL LETTER U WITH ACUTE"),
  (0xdb, "LATIN CAPITAL LETTER U WITH CIRCUMFLEX"),
  (0xdc, "LATIN CAPITAL LETTER U WITH DIAERESIS"), (0xdd, "LATIN CAPITAL LETTER Y WITH ACUTE"),
  (0xde, "LATIN CAPITAL LETTER THORN"), (0xdf, "LATIN SMALL LETTER SHARP S"),
  (0xe0, "LATIN SMALL LETTER A WITH GRAVE"), (0xe1, "LATIN SMALL LETTER A WITH ACUTE"),
  (0xe2, "LATIN SMALL LETTER A WITH CIRCUMFLEX"), (0xe3, "LATIN SMALL LETTER A WITH TILDE"),
  (0xe4, "LATIN SMALL LETTER A WITH DIAERESIS"), (0xe5, "LATIN SMALL LETTER A WITH RING ABOVE"),
  (0xe6, "LATIN SMALL LETTER AE"), (0xe7, "LATIN SMALL LETTER C WITH CEDILLA"),
  (0xe8, "LATIN SMALL LETTER E WITH GRAVE"), (0xe9, "LATIN SMALL LETTER E WITH ACUTE"),
  (0xea, "LATIN SMALL LETTER E WITH CIRCUMFLEX"), (0xeb, "LATIN SMALL LETTER E WITH DIAERESIS"),
  (0xec, "LATIN SMALL LETTER I WITH GRAVE"), (0xed, "LATIN SMALL LETTER I WITH ACUTE"),
  (0xee, "LATIN SMALL LETTER I WITH CIRCUMFLEX"), (0xef, "LATIN SMALL LETTER I WITH DIAERESIS"),
  (0xf0, "LATIN SMALL LETTER ETH"), (0xf1, "LATIN SMALL LETTER N WITH TILDE"),
  (0xf2, "LATIN SMALL LETTER O WITH GRAVE"), (0xf3, "LATIN SMALL LETTER O WITH ACUTE"),
  (0xf4, "LATIN SMALL LETTER O WITH CIRCUMFLEX"), (0xf5, "LATIN SMALL LETTER O WITH TILDE"),
  (0xf6, "LATIN SMALL LETTER O WITH DIAERESIS"), (0xf7, "DIVISION SIGN"),
  (0xf8, "LATIN SMALL LETTER O WITH STROKE"), (0xf9, "LATIN SMALL LETTER U WITH GRAVE"),
  (0xfa, "LATIN SMALL LETTER U WITH ACUTE"), (0xfb, "LATIN SMALL LETTER U WITH CIRCUMFLEX"),
  (0xfc, "LATIN SMALL LETTER U WITH DIAERESIS"), (0xfd, "LATIN SMALL LETTER Y WITH ACUTE"),
  (0xfe, "LATIN SMALL LETTER THORN"), (0xff, "LATIN SMALL LETTER Y WITH DIAERESIS"),
  (0x100, "LATIN CAPITAL LETTER A WITH MACRON"), (0x101, "LATIN SMALL LETTER A WITH MACRON"),
  (0x102, "LATIN CAPITAL LETTER A WITH BREVE"), (0x103, "LATIN SMALL LETTER A WITH BREVE"),
  (0x104, "LATIN CAPITAL LETTER A WITH OGONEK"), (0x105, "LATIN SMALL LETTER A WITH OGONEK"),
  (0x106, "LATIN CAPITAL LETTER C WITH ACUTE"), (0x107, "LATIN SMALL LETTER C WITH ACUTE"),
  (0x108, "LATIN CAPITAL LETTER C WITH CIRCUMFLEX"),
  (0x109, "LATIN SMALL LETTER C WITH CIRCUMFLEX"),
  (0x10a, "LATIN CAPITAL LETTER C WITH DOT ABOVE"),
  (0x10b, "LATIN SMALL LETTER C WITH DOT ABOVE"), (0x10c, "LATIN CAPITAL LETTER C WITH CARON"),
  (0x10d, "LATIN SMALL LETTER C WITH CARON"), (0x10e, "LATIN CAPITAL LETTER D WITH CARON"),
  (0x10f, "LATIN SMALL LETTER D WITH CARON"), (0x110, "LATIN CAPITAL LETTER D WITH STROKE"),
  (0x111, "LATIN SMALL LETTER D WITH STROKE"), (0x112, "LATIN CAPITAL LETTER E WITH MACRON"),
  (0x113, "LATIN SMALL LETTER E WITH MACRON"), (0x114, "LATIN CAPITAL LETTER E WITH BREVE"),
  (0x115, "LATIN SMALL LETTER E WITH BREVE"), (0x116, "LATIN CAPITAL LETTER E WITH DOT ABOVE"),
  (0x117, "LATIN SMALL LETTER E WITH DOT ABOVE"), (0x118, "LATIN CAPITAL LETTER E WITH OGONEK"),
  (0x119, "LATIN SMALL LETTER E WITH OGONEK"), (0x11a, "LATIN CAPITAL LETTER E WITH CARON"),
  (0x11b, "LATIN SMALL LETTER E WITH CARON"), (0x11c, "LATIN CAPITAL LETTER G WITH CIRCUMFLEX"),
  (0x11d, "LATIN SMALL LETTER G WITH CIRCUMFLEX"), (0x11e, "LATIN CAPITAL LETTER G WITH BREVE"),
  (0x11f, "LATIN SMALL LETTER G WITH BREVE"), (0x120, "LATIN CAPITAL LETTER G WITH DOT ABOVE"),
  (0x121, "LATIN SMALL LETTER G WITH DOT ABOVE"), (0x122, "LATIN CAPITAL LETTER G WITH CEDILLA"),
  (0x123, "LATIN SMALL LETTER G WITH CEDILLA"),
  (0x124, "LATIN CAPITAL LETTER H WITH CIRCUMFLEX"),
  (0x125, "LATIN SMALL LETTER H WITH CIRCUMFLEX"), (0x126, "LATIN CAPITAL LETTER H WITH STROKE"),
  (0x127, "LATIN SMALL LETTER H WITH STROKE"), (0x128, "LATIN CAPITAL LETTER I WITH TILDE"),
  (0x129, "LATIN SMALL LETTER I WITH TILDE"), (0x12a, "LATIN CAPITAL LETTER I WITH MACRON"),
  (0x12b, "LATIN SMALL LETTER I WITH MACRON"), (0x12c, "LATIN CAPITAL LETTER I WITH BREVE"),
  (0x12d, "LATIN SMALL LETTER I WITH BREVE"), (0x12e, "LATIN CAPITAL LETTER I WITH OGONEK"),
  (0x12f, "LATIN SMALL LETTER I WITH OGONEK"), (0x130, "LATIN CAPITAL LETTER I WITH DOT ABOVE"),
  (0x131, "LATIN SMALL LETTER DOTLESS I"), (0x132, "LATIN CAPITAL LIGATURE IJ"),
  (0x133, "LATIN SMALL LIGATURE IJ"), (0x134, "LATIN CAPITAL LETTER J WITH CIRCUMFLEX"),
  (0x135, "LATIN SMALL LETTER J WITH CIRCUMFLEX"),
  (0x136, "LATIN CAPITAL LETTER K WITH CEDILLA"), (0x137, "LATIN SMALL LETTER K WITH CEDILLA"),
  (0x138, "LATIN SMALL LETTER KRA"), (0x139, "LATIN CAPITAL LETTER L WITH ACUTE"),
  (0x13a, "LATIN SMALL LETTER L WITH ACUTE"), (0x13b, "LATIN CAPITAL LETTER L WITH CEDILLA"),
  (0x13c, "LATIN SMALL LETTER L WITH CEDILLA"), (0x13d, "LATIN CAPITAL LETTER L WITH CARON"),
  (0x13e, "LATIN SMALL LETTER L WITH CARON"), (0x13f, "LATIN CAPITAL LETTER L WITH MIDDLE DOT"),
  (0x140, "LATIN SMALL LETTER L WITH MIDDLE DOT"), (0x141, "LATIN CAPITAL LETTER L WITH STROKE"),
  (0x142, "LATIN SMALL LETTER L WITH STROKE"), (0x143, "LATIN CAPITAL LETTER N WITH ACUTE"),
  (0x144, "LATIN SMALL LETTER N WITH ACUTE"), (0x145, "LATIN CAPITAL LETTER N WITH CEDILLA"),
  (0x146, "LATIN SMALL LETTER N WITH CEDILLA"), (0x147, "LATIN CAPITAL LETTER N WITH CARON"),
  (0x148, "LATIN SMALL LETTER N WITH CARON"),
  (0x149, "LATIN SMALL LETTER N PRECEDED BY APOSTROPHE"), (0x14a, "LATIN CAPITAL LETTER ENG"),
  (0x14b, "LATIN SMALL LETTER ENG"), (0x14c, "LATIN CAPITAL LETTER O WITH MACRON"),
  (0x14d, "LATIN SMALL LETTER O WITH MACRON"), (0x14e, "LATIN CAPITAL LETTER O WITH BREVE"),
  (0x14f, "LATIN SMALL LETTER O WITH BREVE"),
  (0x150, "LATIN CAPITAL LETTER O WITH DOUBLE ACUTE"),
  (0x151, "LATIN SMALL LETTER O WITH DOUBLE ACUTE"), (0x152, "LATIN CAPITAL LIGATURE OE"),
  (0x153, "LATIN SMALL LIGATURE OE"), (0x154, "LATIN CAPITAL LETTER R WITH ACUTE"),
  (0x155, "LATIN SMALL LETTER R WITH ACUTE"), (0x156, "LATIN CAPITAL LETTER R WITH CEDILLA"),
  (0x157, "LATIN SMALL LETTER R WITH CEDILLA"), (0x158, "LATIN CAPITAL LETTER R WITH CARON"),
  (0x159, "LATIN SMALL LETTER R WITH CARON"), (0x15a, "LATIN CAPITAL LETTER S WITH ACUTE"),
  (0x15b, "LATIN SMALL LETTER S WITH ACUTE"), (0x15c, "LATIN CAPITAL LETTER S WITH CIRCUMFLEX"),
  (0x15d, "LATIN SMALL LETTER S WITH CIRCUMFLEX"),
  (0x15e, "LATIN CAPITAL LETTER S WITH CEDILLA"), (0x15f, "LATIN SMALL LETTER S WITH CEDILLA"),
  (0x160, "LATIN CAPITAL LETTER S WITH CARON"), (0x161, "LATIN SMALL LETTER S WITH CARON"),
  (0x162, "LATIN CAPITAL LETTER T WITH CEDILLA"), (0x163, "LATIN SMALL LETTER T WITH CEDILLA"),
  (0x164, "LATIN CAPITAL LETTER T WITH CARON"), (0x165, "LATIN SMALL LETTER T WITH CARON"),
  (0x166, "LATIN CAPITAL LETTER T WITH STROKE"), (0x167, "LATIN SMALL LETTER T WITH STROKE"),
  (0x168, "LATIN CAPITAL LETTER U WITH TILDE"), (0x169, "LATIN SMALL LETTER U WITH TILDE"),
  (0x16a, "LATIN CAPITAL LETTER U WITH MACRON"), (0x16b, "LATIN SMALL LETTER U WITH MACRON"),
  (0x16c, "LATIN CAPITAL LETTER U WITH BREVE"), (0x16d, "LATIN SMALL LETTER U WITH BREVE"),
  (0x16e, "LATIN CAPITAL LETTER U WITH RING ABOVE"),
  (0x16f, "LATIN SMALL LETTER U WITH RING ABOVE"),
  (0x170, "LATIN CAPITAL LETTER U WITH DOUBLE ACUTE"),
  (0x171, "LATIN SMALL LETTER U WITH DOUBLE ACUTE"),
  (0x172, "LATIN CAPITAL LETTER U WITH OGONEK"), (0x173, "LATIN SMALL LETTER U WITH OGONEK"),
  (0x174, "LATIN CAPITAL LETTER W WITH CIRCUMFLEX"),
  (0x175, "LATIN SMALL LETTER W WITH CIRCUMFLEX"),
  (0x176, "LATIN CAPITAL LETTER Y WITH CIRCUMFLEX"),
  (0x177, "LATIN SMALL LETTER Y WITH CIRCUMFLEX"),
  (0x178, "LATIN CAPITAL LETTER Y WITH DIAERESIS"), (0x179, "LATIN CAPITAL LETTER Z WITH ACUTE"),
  (0x17a, "LATIN SMALL LETTER Z WITH ACUTE"), (0x17b, "LATIN CAPITAL LETTER Z WITH DOT ABOVE"),
  (0x17c, "LATIN SMALL LETTER Z WITH DOT ABOVE"), (0x17d, "LATIN CAPITAL LETTER Z WITH CARON"),
  (0x17e, "LATIN SMALL LETTER Z WITH CARON"), (0x17f, "LATIN SMALL LETTER LONG S")]

/-- Names from 0x370 to 0x3ff. -/
def greekNames : List (Nat × String) :=
  [(0x370, "GREEK CAPITAL LETTER HETA"), (0x371, "GREEK SMALL LETTER HETA"),
  (0x372, "GREEK CAPITAL LETTER ARCHAIC SAMPI"), (0x373, "GREEK SMALL LETTER ARCHAIC SAMPI"),
  (0x374, "GREEK NUMERAL SIGN"), (0x375, "GREEK LOWER NUMERAL SIGN"),
  (0x376, "GREEK CAPITAL LETTER PAMPHYLIAN DIGAMMA"),
  (0x377, "GREEK SMALL LETTER PAMPHYLIAN DIGAMMA"), (0x37a, "GREEK YPOGEGRAMMENI"),
  (0x37b, "GREEK SMALL REVERSED LUNATE SIGMA SYMBOL"),
  (0x37c, "GREEK SMALL DOTTED LUNATE SIGMA SYMBOL"),
  (0x37d, "GREEK SMALL REVERSED DOTTED LUNATE SIGMA SYMBOL"), (0x37e, "GREEK QUESTION MARK"),
  (0x37f, "GREEK CAPITAL LETTER YOT"), (0x384, "GREEK TONOS"), (0x385, "GREEK DIALYTIKA TONOS"),
  (0x386, "GREEK CAPITAL LETTER ALPHA WITH TONOS"), (0x387, "GREEK ANO TELEIA"),
  (0x388, "GREEK CAPITAL LETTER EPSILON WITH TONOS"),
  (0x389, "GREEK CAPITAL LETTER ETA WITH TONOS"),
  (0x38a, "GREEK CAPITAL LETTER IOTA WITH TONOS"),
  (0x38c, "GREEK CAPITAL LETTER OMICRON WITH TONOS"),
  (0x38e, "GREEK CAPITAL LETTER UPSILON WITH TONOS"),
  (0x38f, "GREEK CAPITAL LETTER OMEGA WITH TONOS"),
  (0x390, "GREEK SMALL LETTER IOTA WITH DIALYTIKA AND TONOS"),
  (0x391, "GREEK CAPITAL LETTER ALPHA"), (0x392, "GREEK CAPITAL LETTER BETA"),
  (0x393, "GREEK CAPITAL LETTER GAMMA"), (0x394, "GREEK CAPITAL LETTER DELTA"),
  (0x395, "GREEK CAPITAL LETTER EPSILON"), (0x396, "GREEK CAPITAL LETTER ZETA"),
  (0x397, "GREEK CAPITAL LETTER ETA"), (0x398, "GREEK CAPITAL LETTER THETA"),
  (0x399, "GREEK CAPITAL LETTER IOTA"), (0x39a, "GREEK CAPITAL LETTER KAPPA"),
  (0x39b, "GREEK CAPITAL LETTER LAMDA"), (0x39c, "GREEK CAPITAL LETTER MU"),
  (0x39d, "GREEK CAPITAL LETTER NU"), (0x39e, "GREEK CAPITAL LETTER XI"),
  (0x39f, "GREEK CAPITAL LETTER OMICRON"), (0x3a0, "GREEK CAPITAL LETTER PI"),
  (0x3a1, "GREEK CAPITAL LETTER RHO"), (0x3a3, "GREEK CAPITAL LETTER SIGMA"),
  (0x3a4, "GREEK CAPITAL LETTER TAU"), (0x3a5, "GREEK CAPITAL LETTER UPSILON"),
  (0x3a6, "GREEK CAPITAL LETTER PHI"), (0x3a7, "GREEK CAPITAL LETTER CHI"),
  (0x3a8, "GREEK CAPITAL LETTER PSI"), (0x3a9, "GREEK CAPITAL LETTER OMEGA"),
  (0x3aa, "GREEK CAPITAL LETTER IOTA WITH DIALYTIKA"),
  (0x3ab, "GREEK CAPITAL LETTER UPSILON WITH DIALYTIKA"),
  (0x3ac, "GREEK SMALL LETTER ALPHA WITH TONOS"),
  (0x3ad, "GREEK SMALL LETTER EPSILON WITH TONOS"), (0x3ae, "GREEK SMALL LETTER ETA WITH TONOS"),
  (0x3af, "GREEK SMALL LETTER IOTA WITH TONOS"),
  (0x3b0, "GREEK SMALL LETTER UPSILON WITH DIALYTIKA AND TONOS"),
  (0x3b1, "GREEK SMALL LETTER ALPHA"), (0x3b2, "GREEK SMALL LETTER BETA"),
  (0x3b3, "GREEK SMALL LETTER GAMMA"), (0x3b4, "GREEK SMALL LETTER DELTA"),
  (0x3b5, "GREEK SMALL LETTER EPSILON"), (0x3b6, "GREEK SMALL LETTER ZETA"),
  (0x3b7, "GREEK SMALL LETTER ETA"), (0x3b8, "GREEK SMALL LETTER THETA"),
  (0x3b9, "GREEK SMALL LETTER IOTA"), (0x3ba, "GREEK SMALL LETTER KAPPA"),
  (0x3bb, "GREEK SMALL LETTER LAMDA"), (0x3bc, "GREEK SMALL LETTER MU"),
  (0x3bd, "GREEK SMALL LETTER NU"), (0x3be, "GREEK SMALL LETTER XI"),
  (0x3bf, "GREEK SMALL LETTER OMICRON"), (0x3c0, "GREEK SMALL LETTER PI"),
  (0x3c1, "GREEK SMALL LETTER RHO"), (0x3c2, "GREEK SMALL LETTER FINAL SIGMA"),
  (0x3c3, "GREEK SMALL LETTER SIGMA"), (0x3c4, "GREEK SMALL LETTER TAU"),
  (0x3c5, "GREEK SMALL LETTER UPSILON"), (0x3c6, "GREEK SMALL LETTER PHI"),
  (0x3c7, "GREEK SMALL LETTER CHI"), (0x3c8, "GREEK SMALL LETTER PSI"),
  (0x3c9, "GREEK SMALL LETTER OMEGA"), (0x3ca, "GREEK SMALL LETTER IOTA WITH DIALYTIKA"),
  (0x3cb, "GREEK SMALL LETTER UPSILON WITH DIALYTIKA"),
  (0x3cc, "GREEK SMALL LETTER OMICRON WITH TONOS"),
  (0x3cd, "GREEK SMALL LETTER UPSILON WITH TONOS"),
  (0x3ce, "GREEK SMALL LETTER OMEGA WITH TONOS"), (0x3cf, "GREEK CAPITAL KAI SYMBOL"),
  (0x3d0, "GREEK BETA SYMBOL"), (0x3d1, "GREEK THETA SYMBOL"),
  (0x3d2, "GREEK UPSILON WITH HOOK SYMBOL"), (0x3d3, "GREEK UPSILON WITH ACUTE AND HOOK SYMBOL"),
  (0x3d4, "GREEK UPSILON WITH DIAERESIS AND HOOK SYMBOL"), (0x3d5, "GREEK PHI SYMBOL"),
  (0x3d6, "GREEK PI SYMBOL"), (0x3d7, "GREEK KAI SYMBOL"), (0x3d8, "GREEK LETTER ARCHAIC KOPPA"),
  (0x3d9, "GREEK SMALL LETTER ARCHAIC KOPPA"), (0x3da, "GREEK LETTER STIGMA"),
  (0x3db, "GREEK SMALL LETTER STIGMA"), (0x3dc, "GREEK LETTER DIGAMMA"),
  (0x3dd, "GREEK SMALL LETTER DIGAMMA"), (0x3de, "GREEK LETTER KOPPA"),
  (0x3df, "GREEK SMALL LETTER KOPPA"), (0x3e0, "GREEK LETTER SAMPI"),
  (0x3e1, "GREEK SMALL LETTER SAMPI"), (0x3e2, "COPTIC CAPITAL LETTER SHEI"),
  (0x3e3, "COPTIC SMALL LETTER SHEI"), (0x3e4, "COPTIC CAPITAL LETTER FEI"),
  (0x3e5, "COPTIC SMALL LETTER FEI"), (0x3e6, "COPTIC CAPITAL LETTER KHEI"),
  (0x3e7, "COPTIC SMALL LETTER KHEI"), (0x3e8, "COPTIC CAPITAL LETTER HORI"),
  (0x3e9, "COPTIC SMALL LETTER HORI"), (0x3ea, "COPTIC CAPITAL LETTER GANGIA"),
  (0x3eb, "COPTIC SMALL LETTER GANGIA"), (0x3ec, "COPTIC CAPITAL LETTER SHIMA"),
  (0x3ed, "COPTIC SMALL LETTER SHIMA"), (0x3ee, "COPTIC CAPITAL LETTER DEI"),
  (0x3ef, "COPTIC SMALL LETTER DEI"), (0x3f0, "GREEK KAPPA SYMBOL"), (0x3f1, "GREEK RHO SYMBOL"),
  (0x3f2, "GREEK LUNATE SIGMA SYMBOL"), (0x3f3, "GREEK LETTER YOT"),
  (0x3f4, "GREEK CAPITAL THETA SYMBOL"), (0x3f5, "GREEK LUNATE EPSILON SYMBOL"),
  (0x3f6, "GREEK REVERSED LUNATE EPSILON SYMBOL"), (0x3f7, "GREEK CAPITAL LETTER SHO"),
  (0x3f8, "GREEK SMALL LETTER SHO"), (0x3f9, "GREEK CAPITAL LUNATE SIGMA SYMBOL"),
  (0x3fa, "GREEK CAPITAL LETTER SAN"), (0x3fb, "GREEK SMALL LETTER SAN"),
  (0x3fc, "GREEK RHO WITH STROKE SYMBOL"), (0x3fd, "GREEK CAPITAL REVERSED LUNATE SIGMA SYMBOL"),
  (0x3fe, "GREEK CAPITAL DOTTED LUNATE SIGMA SYMBOL"),
  (0x3ff, "GREEK CAPITAL REVERSED DOTTED LUNATE SIGMA SYMBOL")]

/-- Names from 0x400 to 0x45f. -/
def cyrillicNames : List (Nat × String) :=
  [(0x400, "CYRILLIC CAPITAL LETTER IE WITH GRAVE"), (0x401, "CYRILLIC CAPITAL LETTER IO"),
  (0x402, "CYRILLIC CAPITAL LETTER DJE"), (0x403, "CYRILLIC CAPITAL LETTER GJE"),
  (0x404, "CYRILLIC CAPITAL LETTER UKRAINIAN IE"), (0x405, "CYRILLIC CAPITAL LETTER DZE"),
  (0x406, "CYRILLIC CAPITAL LETTER BYELORUSSIAN-UKRAINIAN I"),
  (0x407, "CYRILLIC CAPITAL LETTER YI"), (0x408, "CYRILLIC CAPITAL LETTER JE"),
  (0x409, "CYRILLIC CAPITAL LETTER LJE"), (0x40a, "CYRILLIC CAPITAL LETTER NJE"),
  (0x40b, "CYRILLIC CAPITAL LETTER TSHE"), (0x40c, "CYRILLIC CAPITAL LETTER KJE"),
  (0x40d, "CYRILLIC CAPITAL LETTER I WITH GRAVE"), (0x40e, "CYRILLIC CAPITAL LETTER SHORT U"),
  (0x40f, "CYRILLIC CAPITAL LETTER DZHE"), (0x410, "CYRILLIC CAPITAL LETTER A"),
  (0x411, "CYRILLIC CAPITAL LETTER BE"), (0x412, "CYRILLIC CAPITAL LETTER VE"),
  (0x413, "CYRILLIC CAPITAL LETTER GHE"), (0x414, "CYRILLIC CAPITAL LETTER DE"),
  (0x415, "CYRILLIC CAPITAL LETTER IE"), (0x416, "CYRILLIC CAPITAL LETTER ZHE"),
  (0x417, "CYRILLIC CAPITAL LETTER ZE"), (0x418, "CYRILLIC CAPITAL LETTER I"),
  (0x419, "CYRILLIC CAPITAL LETTER SHORT I"), (0x41a, "CYRILLIC CAPITAL LETTER KA"),
  (0x41b, "CYRILLIC CAPITAL LETTER EL"), (0x41c, "CYRILLIC CAPITAL LETTER EM"),
  (0x41d, "CYRILLIC CAPITAL LETTER EN"), (0x41e, "CYRILLIC CAPITAL LETTER O"),
  (0x41f, "CYRILLIC CAPITAL LETTER PE"), (0x420, "CYRILLIC CAPITAL LETTER ER"),
  (0x421, "CYRILLIC CAPITAL LETTER ES"), (0x422, "CYRILLIC CAPITAL LETTER TE"),
  (0x423, "CYRILLIC CAPITAL LETTER U"), (0x424, "CYRILLIC CAPITAL LETTER EF"),
  (0x425, "CYRILLIC CAPITAL LETTER HA"), (0x426, "CYRILLIC CAPITAL LETTER TSE"),
  (0x427, "CYRILLIC CAPITAL LETTER CHE"), (0x428, "CYRILLIC CAPITAL LETTER SHA"),
  (0x429, "CYRILLIC CAPITAL LETTER SHCHA"), (0x42a, "CYRILLIC CAPITAL LETTER HARD SIGN"),
  (0x42b, "CYRILLIC CAPITAL LETTER YERU"), (0x42c, "CYRILLIC CAPITAL LETTER SOFT SIGN"),
  (0x42d, "CYRILLIC CAPITAL LETTER E"), (0x42e, "CYRILLIC CAPITAL LETTER YU"),
  (0x42f, "CYRILLIC CAPITAL LETTER YA"), (0x430, "CYRILLIC SMALL LETTER A"),
  (0x431, "CYRILLIC SMALL LETTER BE"), (0x432, "CYRILLIC SMALL LETTER VE"),
  (0x433, "CYRILLIC SMALL LETTER GHE"), (0x434, "CYRILLIC SMALL LETTER DE"),
  (0x435, "CYRILLIC SMALL LETTER IE"), (0x436, "CYRILLIC SMALL LETTER ZHE"),
  (0x437, "CYRILLIC SMALL LETTER ZE"), (0x438, "CYRILLIC SMALL LETTER I"),
  (0x439, "CYRILLIC SMALL LETTER SHORT I"), (0x43a, "CYRILLIC SMALL LETTER KA"),
  (0x43b, "CYRILLIC SMALL LETTER EL"), (0x43c, "CYRILLIC SMALL LETTER EM"),
  (0x43d, "CYRILLIC SMALL LETTER EN"), (0x43e, "CYRILLIC SMALL LETTER O"),
  (0x43f, "CYRILLIC SMALL LETTER PE"), (0x440, "CYRILLIC SMALL LETTER ER"),
  (0x441, "CYRILLIC SMALL LETTER ES"), (0x442, "CYRILLIC SMALL LETTER TE"),
  (0x443, "CYRILLIC SMALL LETTER U"), (0x444, "CYRILLIC SMALL LETTER EF"),
  (0x445, "CYRILLIC SMALL LETTER HA"), (0x446, "CYRILLIC SMALL LETTER TSE"),
  (0x447, "CYRILLIC SMALL LETTER CHE"), (0x448, "CYRILLIC SMALL LETTER SHA"),
  (0x449, "CYRILLIC SMALL LETTER SHCHA"), (0x44a, "CYRILLIC SMALL LETTER HARD SIGN"),
  (0x44b, "CYRILLIC SMALL LETTER YERU"), (0x44c, "CYRILLIC SMALL LETTER SOFT SIGN"),
  (0x44d, "CYRILLIC SMALL LETTER E"), (0x44e, "CYRILLIC SMALL LETTER YU"),
  (0x44f, "CYRILLIC SMALL LETTER YA"), (0x450, "CYRILLIC SMALL LETTER IE WITH GRAVE"),
  (0x451, "CYRILLIC SMALL LETTER IO"), (0x452, "CYRILLIC SMALL LETTER DJE"),
  (0x453, "CYRILLIC SMALL LETTER GJE"), (0x454, "CYRILLIC SMALL LETTER UKRAINIAN IE"),
  (0x455, "CYRILLIC SMALL LETTER DZE"),
  (0x456, "CYRILLIC SMALL LETTER BYELORUSSIAN-UKRAINIAN I"), (0x457, "CYRILLIC SMALL LETTER YI"),
  (0x458, "CYRILLIC SMALL LETTER JE"), (0x459, "CYRILLIC SMALL LETTER LJE"),
  (0x45a, "CYRILLIC SMALL LETTER NJE"), (0x45b, "CYRILLIC SMALL LETTER TSHE"),
  (0x45c, "CYRILLIC SMALL LETTER KJE"), (0x45d, "CYRILLIC SMALL LETTER I WITH GRAVE"),
  (0x45e, "CYRILLIC SMALL LETTER SHORT U"), (0x45f, "CYRILLIC SMALL LETTER DZHE")]

/-- Names from 0x2000 to 0x206f. -/
def punctuationNames : List (Nat × String) :=
  [(0x2000, "EN QUAD"), (0x2001, "EM QUAD"), (0x2002, "EN SPACE"), (0x2003, "EM SPACE"),
  (0x2004, "THREE-PER-EM SPACE"), (0x2005, "FOUR-PER-EM SPACE"), (0x2006, "SIX-PER-EM SPACE"),
  (0x2007, "FIGURE SPACE"), (0x2008, "PUNCTUATION SPACE"), (0x2009, "THIN SPACE"),
  (0x200a, "HAIR SPACE"), (0x200b, "ZERO WIDTH SPACE"), (0x200c, "ZERO WIDTH NON-JOINER"),
  (0x200d, "ZERO WIDTH JOINER"), (0x200e, "LEFT-TO-RIGHT MARK"), (0x200f, "RIGHT-TO-LEFT MARK"),
  (0x2010, "HYPHEN"), (0x2011, "NON-BREAKING HYPHEN"), (0x2012, "FIGURE DASH"),
  (0x2013, "EN DASH"), (0x2014, "EM DASH"), (0x2015, "HORIZONTAL BAR"),
  (0x2016, "DOUBLE VERTICAL LINE"), (0x2017, "DOUBLE LOW LINE"),
  (0x2018, "LEFT SINGLE QUOTATION MARK"), (0x2019, "RIGHT SINGLE QUOTATION MARK"),
  (0x201a, "SINGLE LOW-9 QUOTATION MARK"), (0x201b, "SINGLE HIGH-REVERSED-9 QUOTATION MARK"),
  (0x201c, "LEFT DOUBLE QUOTATION MARK"), (0x201d, "RIGHT DOUBLE QUOTATION MARK"),
  (0x201e, "DOUBLE LOW-9 QUOTATION MARK"), (0x201f, "DOUBLE HIGH-REVERSED-9 QUOTATION MARK"),
  (0x2020, "DAGGER"), (0x2021, "DOUBLE DAGGER"), (0x2022, "BULLET"),
  (0x2023, "TRIANGULAR BULLET"), (0x2024, "ONE DOT LEADER"), (0x2025, "TWO DOT LEADER"),
  (0x2026, "HORIZONTAL ELLIPSIS"), (0x2027, "HYPHENATION POINT"), (0x2028, "LINE SEPARATOR"),
  (0x2029, "PARAGRAPH SEPARATOR"), (0x202a, "LEFT-TO-RIGHT EMBEDDING"),
  (0x202b, "RIGHT-TO-LEFT EMBEDDING"), (0x202c, "POP DIRECTIONAL FORMATTING"),
  (0x202d, "LEFT-TO-RIGHT OVERRIDE"), (0x202e, "RIGHT-TO-LEFT OVERRIDE"),
  (0x202f, "NARROW NO-BREAK SPACE"), (0x2030, "PER MILLE SIGN"),
  (0x2031, "PER TEN THOUSAND SIGN"), (0x2032, "PRIME"), (0x2033, "DOUBLE PRIME"),
  (0x2034, "TRIPLE PRIME"), (0x2035, "REVERSED PRIME"), (0x2036, "REVERSED DOUBLE PRIME"),
  (0x2037, "REVERSED TRIPLE PRIME"), (0x2038, "CARET"),
  (0x2039, "SINGLE LEFT-POINTING ANGLE QUOTATION MARK"),
  (0x203a, "SINGLE RIGHT-POINTING ANGLE QUOTATION MARK"), (0x203b, "REFERENCE MARK"),
  (0x203c, "DOUBLE EXCLAMATION MARK"), (0x203d, "INTERROBANG"), (0x203e, "OVERLINE"),
  (0x203f, "UNDERTIE"), (0x2040, "CHARACTER TIE"), (0x2041, "CARET INSERTION POINT"),
  (0x2042, "ASTERISM"), (0x2043, "HYPHEN BULLET"), (0x2044, "FRACTION SLASH"),
  (0x2045, "LEFT SQUARE BRACKET WITH QUILL"), (0x2046, "RIGHT SQUARE BRACKET WITH QUILL"),
  (0x2047, "DOUBLE QUESTION MARK"), (0x2048, "QUESTION EXCLAMATION MARK"),
  (0x2049, "EXCLAMATION QUESTION MARK"), (0x204a, "TIRONIAN SIGN ET"),
  (0x204b, "REVERSED PILCROW SIGN"), (0x204c, "BLACK LEFTWARDS BULLET"),
  (0x204d, "BLACK RIGHTWARDS BULLET"), (0x204e, "LOW ASTERISK"), (0x204f, "REVERSED SEMICOLON"),
  (0x2050, "CLOSE UP"), (0x2051, "TWO ASTERISKS ALIGNED VERTICALLY"),
  (0x2052, "COMMERCIAL MINUS SIGN"), (0x2053, "SWUNG DASH"), (0x2054, "INVERTED UNDERTIE"),
  (0x2055, "FLOWER PUNCTUATION MARK"), (0x2056, "THREE DOT PUNCTUATION"),
  (0x2057, "QUADRUPLE PRIME"), (0x2058, "FOUR DOT PUNCTUATION"),
  (0x2059, "FIVE DOT PUNCTUATION"), (0x205a, "TWO DOT PUNCTUATION"), (0x205b, "FOUR DOT MARK"),
  (0x205c, "DOTTED CROSS"), (0x205d, "TRICOLON"), (0x205e, "VERTICAL FOUR DOTS"),
  (0x205f, "MEDIUM MATHEMATICAL SPACE"), (0x2060, "WORD JOINER"),
  (0x2061, "FUNCTION APPLICATION"), (0x2062, "INVISIBLE TIMES"), (0x2063, "INVISIBLE SEPARATOR"),
  (0x2064, "INVISIBLE PLUS"), (0x2066, "LEFT-TO-RIGHT ISOLATE"),
  (0x2067, "RIGHT-TO-LEFT ISOLATE"), (0x2068, "FIRST STRONG ISOLATE"),
  (0x2069, "POP DIRECTIONAL ISOLATE"), (0x206a, "INHIBIT SYMMETRIC SWAPPING"),
  (0x206b, "ACTIVATE SYMMETRIC SWAPPING"), (0x206c, "INHIBIT ARABIC FORM SHAPING"),
  (0x206d, "ACTIVATE ARABIC FORM SHAPING"), (0x206e, "NATIONAL DIGIT SHAPES"),
  (0x206f, "NOMINAL DIGIT SHAPES")]

/-- Names from 0x20a0 to 0x20bf. -/
def currencyNames : List (Nat × String) :=
  [(0x20a0, "EURO-CURRENCY SIGN"), (0x20a1, "COLON SIGN"), (0x20a2, "CRUZEIRO SIGN"),
  (0x20a3, "FRENCH FRANC SIGN"), (0x20a4, "LIRA SIGN"), (0x20a5, "MILL SIGN"),
  (0x20a6, "NAIRA SIGN"), (0x20a7, "PESETA SIGN"), (0x20a8, "RUPEE SIGN"), (0x20a9, "WON SIGN"),
  (0x20aa, "NEW SHEQEL SIGN"), (0x20ab, "DONG SIGN"), (0x20ac, "EURO SIGN"),
  (0x20ad, "KIP SIGN"), (0x20ae, "TUGRIK SIGN"), (0x20af, "DRACHMA SIGN"),
  (0x20b0, "GERMAN PENNY SIGN"), (0x20b1, "PESO SIGN"), (0x20b2, "GUARANI SIGN"),
  (0x20b3, "AUSTRAL SIGN"), (0x20b4, "HRYVNIA SIGN"), (0x20b5, "CEDI SIGN"),
  (0x20b6, "LIVRE TOURNOIS SIGN"), (0x20b7, "SPESMILO SIGN"), (0x20b8, "TENGE SIGN"),
  (0x20b9, "INDIAN RUPEE SIGN"), (0x20ba, "TURKISH LIRA SIGN"), (0x20bb, "NORDIC MARK SIGN"),
  (0x20bc, "MANAT SIGN"), (0x20bd, "RUBLE SIGN"), (0x20be, "LARI SIGN"),
  (0x20bf, "BITCOIN SIGN")]

/-- Names from 0x2100 to 0x214f. -/
def letterlikeNames : List (Nat × String) :=
  [(0x2100, "ACCOUNT OF"), (0x2101, "ADDRESSED TO THE SUBJECT"),
  (0x2102, "DOUBLE-STRUCK CAPITAL C"), (0x2103, "DEGREE CELSIUS"),
  (0x2104, "CENTRE LINE SYMBOL"), (0x2105, "CARE OF"), (0x2106, "CADA UNA"),
  (0x2107, "EULER CONSTANT"), (0x2108, "SCRUPLE"), (0x2109, "DEGREE FAHRENHEIT"),
  (0x210a, "SCRIPT SMALL G"), (0x210b, "SCRIPT CAPITAL H"), (0x210c, "BLACK-LETTER CAPITAL H"),
  (0x210d, "DOUBLE-STRUCK CAPITAL H"), (0x210e, "PLANCK CONSTANT"),
  (0x210f, "PLANCK CONSTANT OVER TWO PI"), (0x2110, "SCRIPT CAPITAL I"),
  (0x2111, "BLACK-LETTER CAPITAL I"), (0x2112, "SCRIPT CAPITAL L"), (0x2113, "SCRIPT SMALL L"),
  (0x2114, "L B BAR SYMBOL"), (0x2115, "DOUBLE-STRUCK CAPITAL N"), (0x2116, "NUMERO SIGN"),
  (0x2117, "SOUND RECORDING COPYRIGHT"), (0x2118, "SCRIPT CAPITAL P"),
  (0x2119, "DOUBLE-STRUCK CAPITAL P"), (0x211a, "DOUBLE-STRUCK CAPITAL Q"),
  (0x211b, "SCRIPT CAPITAL R"), (0x211c, "BLACK-LETTER CAPITAL R"),
  (0x211d, "DOUBLE-STRUCK CAPITAL R"), (0x211e, "PRESCRIPTION TAKE"), (0x211f, "RESPONSE"),
  (0x2120, "SERVICE MARK"), (0x2121, "TELEPHONE SIGN"), (0x2122, "TRADE MARK SIGN"),
  (0x2123, "VERSICLE"), (0x2124, "DOUBLE-STRUCK CAPITAL Z"), (0x2125, "OUNCE SIGN"),
  (0x2126, "OHM SIGN"), (0x2127, "INVERTED OHM SIGN"), (0x2128, "BLACK-LETTER CAPITAL Z"),
  (0x2129, "TURNED GREEK SMALL LETTER IOTA"), (0x212a, "KELVIN SIGN"), (0x212b, "ANGSTROM SIGN"),
  (0x212c, "SCRIPT CAPITAL B"), (0x212d, "BLACK-LETTER CAPITAL C"), (0x212e, "ESTIMATED SYMBOL"),
  (0x212f, "SCRIPT SMALL E"), (0x2130, "SCRIPT CAPITAL E"), (0x2131, "SCRIPT CAPITAL F"),
  (0x2132, "TURNED CAPITAL F"), (0x2133, "SCRIPT CAPITAL M"), (0x2134, "SCRIPT SMALL O"),
  (0x2135, "ALEF SYMBOL"), (0x2136, "BET SYMBOL"), (0x2137, "GIMEL SYMBOL"),
  (0x2138, "DALET SYMBOL"), (0x2139, "INFORMATION SOURCE"), (0x213a, "ROTATED CAPITAL Q"),
  (0x213b, "FACSIMILE SIGN"), (0x213c, "DOUBLE-STRUCK SMALL PI"),
  (0x213d, "DOUBLE-STRUCK SMALL GAMMA"), (0x213e, "DOUBLE-STRUCK CAPITAL GAMMA"),
  (0x213f, "DOUBLE-STRUCK CAPITAL PI"), (0x2140, "DOUBLE-STRUCK N-ARY SUMMATION"),
  (0x2141, "TURNED SANS-SERIF CAPITAL G"), (0x2142, "TURNED SANS-SERIF CAPITAL L"),
  (0x2143, "REVERSED SANS-SERIF CAPITAL L"), (0x2144, "TURNED SANS-SERIF CAPITAL Y"),
  (0x2145, "DOUBLE-STRUCK ITALIC CAPITAL D"), (0x2146, "DOUBLE-STRUCK ITALIC SMALL D"),
  (0x2147, "DOUBLE-STRUCK ITALIC SMALL E"), (0x2148, "DOUBLE-STRUCK ITALIC SMALL I"),
  (0x2149, "DOUBLE-STRUCK ITALIC SMALL J"), (0x214a, "PROPERTY LINE"),
  (0x214b, "TURNED AMPERSAND"), (0x214c, "PER SIGN"), (0x214d, "AKTIESELSKAB"),
  (0x214e, "TURNED SMALL F"), (0x214f, "SYMBOL FOR SAMARITAN SOURCE")]

/-- Names from 0x2190 to 0x21ff. -/
def arrowNames : List (Nat × String) :=
  [(0x2190, "LEFTWARDS ARROW"), (0x2191, "UPWARDS ARROW"), (0x2192, "RIGHTWARDS ARROW"),
  (0x2193, "DOWNWARDS ARROW"), (0x2194, "LEFT RIGHT ARROW"), (0x2195, "UP DOWN ARROW"),
  (0x2196, "NORTH WEST ARROW"), (0x2197, "NORTH EAST ARROW"), (0x2198, "SOUTH EAST ARROW"),
  (0x2199, "SOUTH WEST ARROW"), (0x219a, "LEFTWARDS ARROW WITH STROKE"),
  (0x219b, "RIGHTWARDS ARROW WITH STROKE"), (0x219c, "LEFTWARDS WAVE ARROW"),
  (0x219d, "RIGHTWARDS WAVE ARROW"), (0x219e, "LEFTWARDS TWO HEADED ARROW"),
  (0x219f, "UPWARDS TWO HEADED ARROW"), (0x21a0, "RIGHTWARDS TWO HEADED ARROW"),
  (0x21a1, "DOWNWARDS TWO HEADED ARROW"), (0x21a2, "LEFTWARDS ARROW WITH TAIL"),
  (0x21a3, "RIGHTWARDS ARROW WITH TAIL"), (0x21a4, "LEFTWARDS ARROW FROM BAR"),
  (0x21a5, "UPWARDS ARROW FROM BAR"), (0x21a6, "RIGHTWARDS ARROW FROM BAR"),
  (0x21a7, "DOWNWARDS ARROW FROM BAR"), (0x21a8, "UP DOWN ARROW WITH BASE"),
  (0x21a9, "LEFTWARDS ARROW WITH HOOK"), (0x21aa, "RIGHTWARDS ARROW WITH HOOK"),
  (0x21ab, "LEFTWARDS ARROW WITH LOOP"), (0x21ac, "RIGHTWARDS ARROW WITH LOOP"),
  (0x21ad, "LEFT RIGHT WAVE ARROW"), (0x21ae, "LEFT RIGHT ARROW WITH STROKE"),
  (0x21af, "DOWNWARDS ZIGZAG ARROW"), (0x21b0, "UPWARDS ARROW WITH TIP LEFTWARDS"),
  (0x21b1, "UPWARDS ARROW WITH TIP RIGHTWARDS"), (0x21b2, "DOWNWARDS ARROW WITH TIP LEFTWARDS"),
  (0x21b3, "DOWNWARDS ARROW WITH TIP RIGHTWARDS"),
  (0x21b4, "RIGHTWARDS ARROW WITH CORNER DOWNWARDS"),
  (0x21b5, "DOWNWARDS ARROW WITH CORNER LEFTWARDS"),
  (0x21b6, "ANTICLOCKWISE TOP SEMICIRCLE ARROW"), (0x21b7, "CLOCKWISE TOP SEMICIRCLE ARROW"),
  (0x21b8, "NORTH WEST ARROW TO LONG BAR"),
  (0x21b9, "LEFTWARDS ARROW TO BAR OVER RIGHTWARDS ARROW TO BAR"),
  (0x21ba, "ANTICLOCKWISE OPEN CIRCLE ARROW"), (0x21bb, "CLOCKWISE OPEN CIRCLE ARROW"),
  (0x21bc, "LEFTWARDS HARPOON WITH BARB UPWARDS"),
  (0x21bd, "LEFTWARDS HARPOON WITH BARB DOWNWARDS"),
  (0x21be, "UPWARDS HARPOON WITH BARB RIGHTWARDS"),
  (0x21bf, "UPWARDS HARPOON WITH BARB LEFTWARDS"),
  (0x21c0, "RIGHTWARDS HARPOON WITH BARB UPWARDS"),
  (0x21c1, "RIGHTWARDS HARPOON WITH BARB DOWNWARDS"),
  (0x21c2, "DOWNWARDS HARPOON WITH BARB RIGHTWARDS"),
  (0x21c3, "DOWNWARDS HARPOON WITH BARB LEFTWARDS"),
  (0x21c4, "RIGHTWARDS ARROW OVER LEFTWARDS ARROW"),
  (0x21c5, "UPWARDS ARROW LEFTWARDS OF DOWNWARDS ARROW"),
  (0x21c6, "LEFTWARDS ARROW OVER RIGHTWARDS ARROW"), (0x21c7, "LEFTWARDS PAIRED ARROWS"),
  (0x21c8, "UPWARDS PAIRED ARROWS"), (0x21c9, "RIGHTWARDS PAIRED ARROWS"),
  (0x21ca, "DOWNWARDS PAIRED ARROWS"), (0x21cb, "LEFTWARDS HARPOON OVER RIGHTWARDS HARPOON"),
  (0x21cc, "RIGHTWARDS HARPOON OVER LEFTWARDS HARPOON"),
  (0x21cd, "LEFTWARDS DOUBLE ARROW WITH STROKE"),
  (0x21ce, "LEFT RIGHT DOUBLE ARROW WITH STROKE"),
  (0x21cf, "RIGHTWARDS DOUBLE ARROW WITH STROKE"), (0x21d0, "LEFTWARDS DOUBLE ARROW"),
  (0x21d1, "UPWARDS DOUBLE ARROW"), (0x21d2, "RIGHTWARDS DOUBLE ARROW"),
  (0x21d3, "DOWNWARDS DOUBLE ARROW"), (0x21d4, "LEFT RIGHT DOUBLE ARROW"),
  (0x21d5, "UP DOWN DOUBLE ARROW"), (0x21d6, "NORTH WEST DOUBLE ARROW"),
  (0x21d7, "NORTH EAST DOUBLE ARROW"), (0x21d8, "SOUTH EAST DOUBLE ARROW"),
  (0x21d9, "SOUTH WEST DOUBLE ARROW"), (0x21da, "LEFTWARDS TRIPLE ARROW"),
  (0x21db, "RIGHTWARDS TRIPLE ARROW"), (0x21dc, "LEFTWARDS SQUIGGLE ARROW"),
  (0x21dd, "RIGHTWARDS SQUIGGLE ARROW"), (0x21de, "UPWARDS ARROW WITH DOUBLE STROKE"),
  (0x21df, "DOWNWARDS ARROW WITH DOUBLE STROKE"), (0x21e0, "LEFTWARDS DASHED ARROW"),
  (0x21e1, "UPWARDS DASHED ARROW"), (0x21e2, "RIGHTWARDS DASHED ARROW"),
  (0x21e3, "DOWNWARDS DASHED ARROW"), (0x21e4, "LEFTWARDS ARROW TO BAR"),
  (0x21e5, "RIGHTWARDS ARROW TO BAR"), (0x21e6, "LEFTWARDS WHITE ARROW"),
  (0x21e7, "UPWARDS WHITE ARROW"), (0x21e8, "RIGHTWARDS WHITE ARROW"),
  (0x21e9, "DOWNWARDS WHITE ARROW"), (0x21ea, "UPWARDS WHITE ARROW FROM BAR"),
  (0x21eb, "UPWARDS WHITE ARROW ON PEDESTAL"),
  (0x21ec, "UPWARDS WHITE ARROW ON PEDESTAL WITH HORIZONTAL BAR"),
  (0x21ed, "UPWARDS WHITE ARROW ON PEDESTAL WITH VERTICAL BAR"),
  (0x21ee, "UPWARDS WHITE DOUBLE ARROW"), (0x21ef, "UPWARDS WHITE DOUBLE ARROW ON PEDESTAL"),
  (0x21f0, "RIGHTWARDS WHITE ARROW FROM WALL"), (0x21f1, "NORTH WEST ARROW TO CORNER"),
  (0x21f2, "SOUTH EAST ARROW TO CORNER"), (0x21f3, "UP DOWN WHITE ARROW"),
  (0x21f4, "RIGHT ARROW WITH SMALL CIRCLE"),
  (0x21f5, "DOWNWARDS ARROW LEFTWARDS OF UPWARDS ARROW"), (0x21f6, "THREE RIGHTWARDS ARROWS"),
  (0x21f7, "LEFTWARDS ARROW WITH VERTICAL STROKE"),
  (0x21f8, "RIGHTWARDS ARROW WITH VERTICAL STROKE"),
  (0x21f9, "LEFT RIGHT ARROW WITH VERTICAL STROKE"),
  (0x21fa, "LEFTWARDS ARROW WITH DOUBLE VERTICAL STROKE"),
  (0x21fb, "RIGHTWARDS ARROW WITH DOUBLE VERTICAL STROKE"),
  (0x21fc, "LEFT RIGHT ARROW WITH DOUBLE VERTICAL STROKE"),
  (0x21fd, "LEFTWARDS OPEN-HEADED ARROW"), (0x21fe, "RIGHTWARDS OPEN-HEADED ARROW"),
  (0x21ff, "LEFT RIGHT OPEN-HEADED ARROW")]

/-- Names from 0x2200 to 0x22ff. -/
def operatorNames : List (Nat × String) :=
  [(0x2200, "FOR ALL"), (0x2201, "COMPLEMENT"), (0x2202, "PARTIAL DIFFERENTIAL"),
  (0x2203, "THERE EXISTS"), (0x2204, "THERE DOES NOT EXIST"), (0x2205, "EMPTY SET"),
  (0x2206, "INCREMENT"), (0x2207, "NABLA"), (0x2208, "ELEMENT OF"),
  (0x2209, "NOT AN ELEMENT OF"), (0x220a, "SMALL ELEMENT OF"), (0x220b, "CONTAINS AS MEMBER"),
  (0x220c, "DOES NOT CONTAIN AS MEMBER"), (0x220d, "SMALL CONTAINS AS MEMBER"),
  (0x220e, "END OF PROOF"), (0x220f, "N-ARY PRODUCT"), (0x2210, "N-ARY COPRODUCT"),
  (0x2211, "N-ARY SUMMATION"), (0x2212, "MINUS SIGN"), (0x2213, "MINUS-OR-PLUS SIGN"),
  (0x2214, "DOT PLUS"), (0x2215, "DIVISION SLASH"), (0x2216, "SET MINUS"),
  (0x2217, "ASTERISK OPERATOR"), (0x2218, "RING OPERATOR"), (0x2219, "BULLET OPERATOR"),
  (0x221a, "SQUARE ROOT"), (0x221b, "CUBE ROOT"), (0x221c, "FOURTH ROOT"),
  (0x221d, "PROPORTIONAL TO"), (0x221e, "INFINITY"), (0x221f, "RIGHT ANGLE"), (0x2220, "ANGLE"),
  (0x2221, "MEASURED ANGLE"), (0x2222, "SPHERICAL ANGLE"), (0x2223, "DIVIDES"),
  (0x2224, "DOES NOT DIVIDE"), (0x2225, "PARALLEL TO"), (0x2226, "NOT PARALLEL TO"),
  (0x2227, "LOGICAL AND"), (0x2228, "LOGICAL OR"), (0x2229, "INTERSECTION"), (0x222a, "UNION"),
  (0x222b, "INTEGRAL"), (0x222c, "DOUBLE INTEGRAL"), (0x222d, "TRIPLE INTEGRAL"),
  (0x222e, "CONTOUR INTEGRAL"), (0x222f, "SURFACE INTEGRAL"), (0x2230, "VOLUME INTEGRAL"),
  (0x2231, "CLOCKWISE INTEGRAL"), (0x2232, "CLOCKWISE CONTOUR INTEGRAL"),
  (0x2233, "ANTICLOCKWISE CONTOUR INTEGRAL"), (0x2234, "THEREFORE"), (0x2235, "BECAUSE"),
  (0x2236, "RATIO"), (0x2237, "PROPORTION"), (0x2238, "DOT MINUS"), (0x2239, "EXCESS"),
  (0x223a, "GEOMETRIC PROPORTION"), (0x223b, "HOMOTHETIC"), (0x223c, "TILDE OPERATOR"),
  (0x223d, "REVERSED TILDE"), (0x223e, "INVERTED LAZY S"), (0x223f, "SINE WAVE"),
  (0x2240, "WREATH PRODUCT"), (0x2241, "NOT TILDE"), (0x2242, "MINUS TILDE"),
  (0x2243, "ASYMPTOTICALLY EQUAL TO"), (0x2244, "NOT ASYMPTOTICALLY EQUAL TO"),
  (0x2245, "APPROXIMATELY EQUAL TO"), (0x2246, "APPROXIMATELY BUT NOT ACTUALLY EQUAL TO"),
  (0x2247, "NEITHER APPROXIMATELY NOR ACTUALLY EQUAL TO"), (0x2248, "ALMOST EQUAL TO"),
  (0x2249, "NOT ALMOST EQUAL TO"), (0x224a, "ALMOST EQUAL OR EQUAL TO"),
  (0x224b, "TRIPLE TILDE"), (0x224c, "ALL EQUAL TO"), (0x224d, "EQUIVALENT TO"),
  (0x224e, "GEOMETRICALLY EQUIVALENT TO"), (0x224f, "DIFFERENCE BETWEEN"),
  (0x2250, "APPROACHES THE LIMIT"), (0x2251, "GEOMETRICALLY EQUAL TO"),
  (0x2252, "APPROXIMATELY EQUAL TO OR THE IMAGE OF"),
  (0x2253, "IMAGE OF OR APPROXIMATELY EQUAL TO"), (0x2254, "COLON EQUALS"),
  (0x2255, "EQUALS COLON"), (0x2256, "RING IN EQUAL TO"), (0x2257, "RING EQUAL TO"),
  (0x2258, "CORRESPONDS TO"), (0x2259, "ESTIMATES"), (0x225a, "EQUIANGULAR TO"),
  (0x225b, "STAR EQUALS"), (0x225c, "DELTA EQUAL TO"), (0x225d, "EQUAL TO BY DEFINITION"),
  (0x225e, "MEASURED BY"), (0x225f, "QUESTIONED EQUAL TO"), (0x2260, "NOT EQUAL TO"),
  (0x2261, "IDENTICAL TO"), (0x2262, "NOT IDENTICAL TO"), (0x2263, "STRICTLY EQUIVALENT TO"),
  (0x2264, "LESS-THAN OR EQUAL TO"), (0x2265, "GREATER-THAN OR EQUAL TO"),
  (0x2266, "LESS-THAN OVER EQUAL TO"), (0x2267, "GREATER-THAN OVER EQUAL TO"),
  (0x2268, "LESS-THAN BUT NOT EQUAL TO"), (0x2269, "GREATER-THAN BUT NOT EQUAL TO"),
  (0x226a, "MUCH LESS-THAN"), (0x226b, "MUCH GREATER-THAN"), (0x226c, "BETWEEN"),
  (0x226d, "NOT EQUIVALENT TO"), (0x226e, "NOT LESS-THAN"), (0x226f, "NOT GREATER-THAN"),
  (0x2270, "NEITHER LESS-THAN NOR EQUAL TO"), (0x2271, "NEITHER GREATER-THAN NOR EQUAL TO"),
  (0x2272, "LESS-THAN OR EQUIVALENT TO"), (0x2273, "GREATER-THAN OR EQUIVALENT TO"),
  (0x2274, "NEITHER LESS-THAN NOR EQUIVALENT TO"),
  (0x2275, "NEITHER GREATER-THAN NOR EQUIVALENT TO"), (0x2276, "LESS-THAN OR GREATER-THAN"),
  (0x2277, "GREATER-THAN OR LESS-THAN"), (0x2278, "NEITHER LESS-THAN NOR GREATER-THAN"),
  (0x2279, "NEITHER GREATER-THAN NOR LESS-THAN"), (0x227a, "PRECEDES"), (0x227b, "SUCCEEDS"),
  (0x227c, "PRECEDES OR EQUAL TO"), (0x227d, "SUCCEEDS OR EQUAL TO"),
  (0x227e, "PRECEDES OR EQUIVALENT TO"), (0x227f, "SUCCEEDS OR EQUIVALENT TO"),
  (0x2280, "DOES NOT PRECEDE"), (0x2281, "DOES NOT SUCCEED"), (0x2282, "SUBSET OF"),
  (0x2283, "SUPERSET OF"), (0x2284, "NOT A SUBSET OF"), (0x2285, "NOT A SUPERSET OF"),
  (0x2286, "SUBSET OF OR EQUAL TO"), (0x2287, "SUPERSET OF OR EQUAL TO"),
  (0x2288, "NEITHER A SUBSET OF NOR EQUAL TO"), (0x2289, "NEITHER A SUPERSET OF NOR EQUAL TO"),
  (0x228a, "SUBSET OF WITH NOT EQUAL TO"), (0x228b, "SUPERSET OF WITH NOT EQUAL TO"),
  (0x228c, "MULTISET"), (0x228d, "MULTISET MULTIPLICATION"), (0x228e, "MULTISET UNION"),
  (0x228f, "SQUARE IMAGE OF"), (0x2290, "SQUARE ORIGINAL OF"),
  (0x2291, "SQUARE IMAGE OF OR EQUAL TO"), (0x2292, "SQUARE ORIGINAL OF OR EQUAL TO"),
  (0x2293, "SQUARE CAP"), (0x2294, "SQUARE CUP"), (0x2295, "CIRCLED PLUS"),
  (0x2296, "CIRCLED MINUS"), (0x2297, "CIRCLED TIMES"), (0x2298, "CIRCLED DIVISION SLASH"),
  (0x2299, "CIRCLED DOT OPERATOR"), (0x229a, "CIRCLED RING OPERATOR"),
  (0x229b, "CIRCLED ASTERISK OPERATOR"), (0x229c, "CIRCLED EQUALS"), (0x229d, "CIRCLED DASH"),
  (0x229e, "SQUARED PLUS"), (0x229f, "SQUARED MINUS"), (0x22a0, "SQUARED TIMES"),
  (0x22a1, "SQUARED DOT OPERATOR"), (0x22a2, "RIGHT TACK"), (0x22a3, "LEFT TACK"),
  (0x22a4, "DOWN TACK"), (0x22a5, "UP TACK"), (0x22a6, "ASSERTION"), (0x22a7, "MODELS"),
  (0x22a8, "TRUE"), (0x22a9, "FORCES"), (0x22aa, "TRIPLE VERTICAL BAR RIGHT TURNSTILE"),
  (0x22ab, "DOUBLE VERTICAL BAR DOUBLE RIGHT TURNSTILE"), (0x22ac, "DOES NOT PROVE"),
  (0x22ad, "NOT TRUE"), (0x22ae, "DOES NOT FORCE"),
  (0x22af, "NEGATED DOUBLE VERTICAL BAR DOUBLE RIGHT TURNSTILE"),
  (0x22b0, "PRECEDES UNDER RELATION"), (0x22b1, "SUCCEEDS UNDER RELATION"),
  (0x22b2, "NORMAL SUBGROUP OF"), (0x22b3, "CONTAINS AS NORMAL SUBGROUP"),
  (0x22b4, "NORMAL SUBGROUP OF OR EQUAL TO"),
  (0x22b5, "CONTAINS AS NORMAL SUBGROUP OR EQUAL TO"), (0x22b6, "ORIGINAL OF"),
  (0x22b7, "IMAGE OF"), (0x22b8, "MULTIMAP"), (0x22b9, "HERMITIAN CONJUGATE MATRIX"),
  (0x22ba, "INTERCALATE"), (0x22bb, "XOR"), (0x22bc, "NAND"), (0x22bd, "NOR"),
  (0x22be, "RIGHT ANGLE WITH ARC"), (0x22bf, "RIGHT TRIANGLE"), (0x22c0, "N-ARY LOGICAL AND"),
  (0x22c1, "N-ARY LOGICAL OR"), (0x22c2, "N-ARY INTERSECTION"), (0x22c3, "N-ARY UNION"),
  (0x22c4, "DIAMOND OPERATOR"), (0x22c5, "DOT OPERATOR"), (0x22c6, "STAR OPERATOR"),
  (0x22c7, "DIVISION TIMES"), (0x22c8, "BOWTIE"),
  (0x22c9, "LEFT NORMAL FACTOR SEMIDIRECT PRODUCT"),
  (0x22ca, "RIGHT NORMAL FACTOR SEMIDIRECT PRODUCT"), (0x22cb, "LEFT SEMIDIRECT PRODUCT"),
  (0x22cc, "RIGHT SEMIDIRECT PRODUCT"), (0x22cd, "REVERSED TILDE EQUALS"),
  (0x22ce, "CURLY LOGICAL OR"), (0x22cf, "CURLY LOGICAL AND"), (0x22d0, "DOUBLE SUBSET"),
  (0x22d1, "DOUBLE SUPERSET"), (0x22d2, "DOUBLE INTERSECTION"), (0x22d3, "DOUBLE UNION"),
  (0x22d4, "PITCHFORK"), (0x22d5, "EQUAL AND PARALLEL TO"), (0x22d6, "LESS-THAN WITH DOT"),
  (0x22d7, "GREATER-THAN WITH DOT"), (0x22d8, "VERY MUCH LESS-THAN"),
  (0x22d9, "VERY MUCH GREATER-THAN"), (0x22da, "LESS-THAN EQUAL TO OR GREATER-THAN"),
  (0x22db, "GREATER-THAN EQUAL TO OR LESS-THAN"), (0x22dc, "EQUAL TO OR LESS-THAN"),
  (0x22dd, "EQUAL TO OR GREATER-THAN"), (0x22de, "EQUAL TO OR PRECEDES"),
  (0x22df, "EQUAL TO OR SUCCEEDS"), (0x22e0, "DOES NOT PRECEDE OR EQUAL"),
  (0x22e1, "DOES NOT SUCCEED OR EQUAL"), (0x22e2, "NOT SQUARE IMAGE OF OR EQUAL TO"),
  (0x22e3, "NOT SQUARE ORIGINAL OF OR EQUAL TO"), (0x22e4, "SQUARE IMAGE OF OR NOT EQUAL TO"),
  (0x22e5, "SQUARE ORIGINAL OF OR NOT EQUAL TO"), (0x22e6, "LESS-THAN BUT NOT EQUIVALENT TO"),
  (0x22e7, "GREATER-THAN BUT NOT EQUIVALENT TO"), (0x22e8, "PRECEDES BUT NOT EQUIVALENT TO"),
  (0x22e9, "SUCCEEDS BUT NOT EQUIVALENT TO"), (0x22ea, "NOT NORMAL SUBGROUP OF"),
  (0x22eb, "DOES NOT CONTAIN AS NORMAL SUBGROUP"),
  (0x22ec, "NOT NORMAL SUBGROUP OF OR EQUAL TO"),
  (0x22ed, "DOES NOT CONTAIN AS NORMAL SUBGROUP OR EQUAL"), (0x22ee, "VERTICAL ELLIPSIS"),
  (0x22ef, "MIDLINE HORIZONTAL ELLIPSIS"), (0x22f0, "UP RIGHT DIAGONAL ELLIPSIS"),
  (0x22f1, "DOWN RIGHT DIAGONAL ELLIPSIS"), (0x22f2, "ELEMENT OF WITH LONG HORIZONTAL STROKE"),
  (0x22f3, "ELEMENT OF WITH VERTICAL BAR AT END OF HORIZONTAL STROKE"),
  (0x22f4, "SMALL ELEMENT OF WITH VERTICAL BAR AT END OF HORIZONTAL STROKE"),
  (0x22f5, "ELEMENT OF WITH DOT ABOVE"), (0x22f6, "ELEMENT OF WITH OVERBAR"),
  (0x22f7, "SMALL ELEMENT OF WITH OVERBAR"), (0x22f8, "ELEMENT OF WITH UNDERBAR"),
  (0x22f9, "ELEMENT OF WITH TWO HORIZONTAL STROKES"),
  (0x22fa, "CONTAINS WITH LONG HORIZONTAL STROKE"),
  (0x22fb, "CONTAINS WITH VERTICAL BAR AT END OF HORIZONTAL STROKE"),
  (0x22fc, "SMALL CONTAINS WITH VERTICAL BAR AT END OF HORIZONTAL STROKE"),
  (0x22fd, "CONTAINS WITH OVERBAR"), (0x22fe, "SMALL CONTAINS WITH OVERBAR"),
  (0x22ff, "Z NOTATION BAG MEMBERSHIP")]

/-- The character of a name, in letters of either case. Only the names of the tables above are
known: all others are left out, and a pattern with one of them is refused as if no character had
it. -/
def named? (name : String) : Option Nat :=
  let wanted := name.map Char.toUpper
  let names := [controlNames, latinNames, greekNames, cyrillicNames, punctuationNames,
    currencyNames, letterlikeNames, arrowNames, operatorNames]
  names.findSome? fun table => (table.find? (·.2 == wanted)).map (·.1)

end PropertyDocs.Text
