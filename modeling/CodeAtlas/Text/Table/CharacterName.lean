/-!
# Character names

The names by which a character can be written in source text, for the blocks that source texts use: Latin, Greek,
punctuation, currency, letter-like signs and number forms, arrows, most mathematical operators, shapes, symbols and
faces; and the other names of control and format characters. A name of another block is not known.
-/

namespace CodeAtlas.Text.Table

/-- Rows of a first character and the names of it and the characters after it, with a bar between two names. A
character without a name has an empty one. -/
def characterNames : List (Nat × String) :=
  [(0x20, "SPACE|EXCLAMATION MARK|QUOTATION MARK|NUMBER SIGN|DOLLAR SIGN|PERCENT SIGN|AMPERSAND"),
   (0x27, "APOSTROPHE|LEFT PARENTHESIS|RIGHT PARENTHESIS|ASTERISK|PLUS SIGN|COMMA|HYPHEN-MINUS"),
   (0x2e, "FULL STOP|SOLIDUS|DIGIT ZERO|DIGIT ONE|DIGIT TWO|DIGIT THREE|DIGIT FOUR|DIGIT FIVE|DIGIT SIX"),
   (0x37, "DIGIT SEVEN|DIGIT EIGHT|DIGIT NINE|COLON|SEMICOLON|LESS-THAN SIGN|EQUALS SIGN"),
   (0x3e, "GREATER-THAN SIGN|QUESTION MARK|COMMERCIAL AT|LATIN CAPITAL LETTER A|LATIN CAPITAL LETTER B"),
   (0x43, "LATIN CAPITAL LETTER C|LATIN CAPITAL LETTER D|LATIN CAPITAL LETTER E|LATIN CAPITAL LETTER F"),
   (0x47, "LATIN CAPITAL LETTER G|LATIN CAPITAL LETTER H|LATIN CAPITAL LETTER I|LATIN CAPITAL LETTER J"),
   (0x4b, "LATIN CAPITAL LETTER K|LATIN CAPITAL LETTER L|LATIN CAPITAL LETTER M|LATIN CAPITAL LETTER N"),
   (0x4f, "LATIN CAPITAL LETTER O|LATIN CAPITAL LETTER P|LATIN CAPITAL LETTER Q|LATIN CAPITAL LETTER R"),
   (0x53, "LATIN CAPITAL LETTER S|LATIN CAPITAL LETTER T|LATIN CAPITAL LETTER U|LATIN CAPITAL LETTER V"),
   (0x57, "LATIN CAPITAL LETTER W|LATIN CAPITAL LETTER X|LATIN CAPITAL LETTER Y|LATIN CAPITAL LETTER Z"),
   (0x5b, "LEFT SQUARE BRACKET|REVERSE SOLIDUS|RIGHT SQUARE BRACKET|CIRCUMFLEX ACCENT|LOW LINE"),
   (0x60, "GRAVE ACCENT|LATIN SMALL LETTER A|LATIN SMALL LETTER B|LATIN SMALL LETTER C"),
   (0x64, "LATIN SMALL LETTER D|LATIN SMALL LETTER E|LATIN SMALL LETTER F|LATIN SMALL LETTER G"),
   (0x68, "LATIN SMALL LETTER H|LATIN SMALL LETTER I|LATIN SMALL LETTER J|LATIN SMALL LETTER K"),
   (0x6c, "LATIN SMALL LETTER L|LATIN SMALL LETTER M|LATIN SMALL LETTER N|LATIN SMALL LETTER O"),
   (0x70, "LATIN SMALL LETTER P|LATIN SMALL LETTER Q|LATIN SMALL LETTER R|LATIN SMALL LETTER S"),
   (0x74, "LATIN SMALL LETTER T|LATIN SMALL LETTER U|LATIN SMALL LETTER V|LATIN SMALL LETTER W"),
   (0x78, "LATIN SMALL LETTER X|LATIN SMALL LETTER Y|LATIN SMALL LETTER Z|LEFT CURLY BRACKET"),
   (0x7c, "VERTICAL LINE|RIGHT CURLY BRACKET|TILDE"),
   (0xa0, "NO-BREAK SPACE|INVERTED EXCLAMATION MARK|CENT SIGN|POUND SIGN|CURRENCY SIGN|YEN SIGN"),
   (0xa6, "BROKEN BAR|SECTION SIGN|DIAERESIS|COPYRIGHT SIGN|FEMININE ORDINAL INDICATOR"),
   (0xab, "LEFT-POINTING DOUBLE ANGLE QUOTATION MARK|NOT SIGN|SOFT HYPHEN|REGISTERED SIGN|MACRON"),
   (0xb0, "DEGREE SIGN|PLUS-MINUS SIGN|SUPERSCRIPT TWO|SUPERSCRIPT THREE|ACUTE ACCENT|MICRO SIGN"),
   (0xb6, "PILCROW SIGN|MIDDLE DOT|CEDILLA|SUPERSCRIPT ONE|MASCULINE ORDINAL INDICATOR"),
   (0xbb, "RIGHT-POINTING DOUBLE ANGLE QUOTATION MARK|VULGAR FRACTION ONE QUARTER"),
   (0xbd, "VULGAR FRACTION ONE HALF|VULGAR FRACTION THREE QUARTERS|INVERTED QUESTION MARK"),
   (0xc0, "LATIN CAPITAL LETTER A WITH GRAVE|LATIN CAPITAL LETTER A WITH ACUTE"),
   (0xc2, "LATIN CAPITAL LETTER A WITH CIRCUMFLEX|LATIN CAPITAL LETTER A WITH TILDE"),
   (0xc4, "LATIN CAPITAL LETTER A WITH DIAERESIS|LATIN CAPITAL LETTER A WITH RING ABOVE"),
   (0xc6, "LATIN CAPITAL LETTER AE|LATIN CAPITAL LETTER C WITH CEDILLA"),
   (0xc8, "LATIN CAPITAL LETTER E WITH GRAVE|LATIN CAPITAL LETTER E WITH ACUTE"),
   (0xca, "LATIN CAPITAL LETTER E WITH CIRCUMFLEX|LATIN CAPITAL LETTER E WITH DIAERESIS"),
   (0xcc, "LATIN CAPITAL LETTER I WITH GRAVE|LATIN CAPITAL LETTER I WITH ACUTE"),
   (0xce, "LATIN CAPITAL LETTER I WITH CIRCUMFLEX|LATIN CAPITAL LETTER I WITH DIAERESIS"),
   (0xd0, "LATIN CAPITAL LETTER ETH|LATIN CAPITAL LETTER N WITH TILDE|LATIN CAPITAL LETTER O WITH GRAVE"),
   (0xd3, "LATIN CAPITAL LETTER O WITH ACUTE|LATIN CAPITAL LETTER O WITH CIRCUMFLEX"),
   (0xd5, "LATIN CAPITAL LETTER O WITH TILDE|LATIN CAPITAL LETTER O WITH DIAERESIS|MULTIPLICATION SIGN"),
   (0xd8, "LATIN CAPITAL LETTER O WITH STROKE|LATIN CAPITAL LETTER U WITH GRAVE"),
   (0xda, "LATIN CAPITAL LETTER U WITH ACUTE|LATIN CAPITAL LETTER U WITH CIRCUMFLEX"),
   (0xdc, "LATIN CAPITAL LETTER U WITH DIAERESIS|LATIN CAPITAL LETTER Y WITH ACUTE"),
   (0xde, "LATIN CAPITAL LETTER THORN|LATIN SMALL LETTER SHARP S|LATIN SMALL LETTER A WITH GRAVE"),
   (0xe1, "LATIN SMALL LETTER A WITH ACUTE|LATIN SMALL LETTER A WITH CIRCUMFLEX"),
   (0xe3, "LATIN SMALL LETTER A WITH TILDE|LATIN SMALL LETTER A WITH DIAERESIS"),
   (0xe5, "LATIN SMALL LETTER A WITH RING ABOVE|LATIN SMALL LETTER AE|LATIN SMALL LETTER C WITH CEDILLA"),
   (0xe8, "LATIN SMALL LETTER E WITH GRAVE|LATIN SMALL LETTER E WITH ACUTE"),
   (0xea, "LATIN SMALL LETTER E WITH CIRCUMFLEX|LATIN SMALL LETTER E WITH DIAERESIS"),
   (0xec, "LATIN SMALL LETTER I WITH GRAVE|LATIN SMALL LETTER I WITH ACUTE"),
   (0xee, "LATIN SMALL LETTER I WITH CIRCUMFLEX|LATIN SMALL LETTER I WITH DIAERESIS"),
   (0xf0, "LATIN SMALL LETTER ETH|LATIN SMALL LETTER N WITH TILDE|LATIN SMALL LETTER O WITH GRAVE"),
   (0xf3, "LATIN SMALL LETTER O WITH ACUTE|LATIN SMALL LETTER O WITH CIRCUMFLEX"),
   (0xf5, "LATIN SMALL LETTER O WITH TILDE|LATIN SMALL LETTER O WITH DIAERESIS|DIVISION SIGN"),
   (0xf8, "LATIN SMALL LETTER O WITH STROKE|LATIN SMALL LETTER U WITH GRAVE"),
   (0xfa, "LATIN SMALL LETTER U WITH ACUTE|LATIN SMALL LETTER U WITH CIRCUMFLEX"),
   (0xfc, "LATIN SMALL LETTER U WITH DIAERESIS|LATIN SMALL LETTER Y WITH ACUTE|LATIN SMALL LETTER THORN"),
   (0xff, "LATIN SMALL LETTER Y WITH DIAERESIS|LATIN CAPITAL LETTER A WITH MACRON"),
   (0x101, "LATIN SMALL LETTER A WITH MACRON|LATIN CAPITAL LETTER A WITH BREVE"),
   (0x103, "LATIN SMALL LETTER A WITH BREVE|LATIN CAPITAL LETTER A WITH OGONEK"),
   (0x105, "LATIN SMALL LETTER A WITH OGONEK|LATIN CAPITAL LETTER C WITH ACUTE"),
   (0x107, "LATIN SMALL LETTER C WITH ACUTE|LATIN CAPITAL LETTER C WITH CIRCUMFLEX"),
   (0x109, "LATIN SMALL LETTER C WITH CIRCUMFLEX|LATIN CAPITAL LETTER C WITH DOT ABOVE"),
   (0x10b, "LATIN SMALL LETTER C WITH DOT ABOVE|LATIN CAPITAL LETTER C WITH CARON"),
   (0x10d, "LATIN SMALL LETTER C WITH CARON|LATIN CAPITAL LETTER D WITH CARON"),
   (0x10f, "LATIN SMALL LETTER D WITH CARON|LATIN CAPITAL LETTER D WITH STROKE"),
   (0x111, "LATIN SMALL LETTER D WITH STROKE|LATIN CAPITAL LETTER E WITH MACRON"),
   (0x113, "LATIN SMALL LETTER E WITH MACRON|LATIN CAPITAL LETTER E WITH BREVE"),
   (0x115, "LATIN SMALL LETTER E WITH BREVE|LATIN CAPITAL LETTER E WITH DOT ABOVE"),
   (0x117, "LATIN SMALL LETTER E WITH DOT ABOVE|LATIN CAPITAL LETTER E WITH OGONEK"),
   (0x119, "LATIN SMALL LETTER E WITH OGONEK|LATIN CAPITAL LETTER E WITH CARON"),
   (0x11b, "LATIN SMALL LETTER E WITH CARON|LATIN CAPITAL LETTER G WITH CIRCUMFLEX"),
   (0x11d, "LATIN SMALL LETTER G WITH CIRCUMFLEX|LATIN CAPITAL LETTER G WITH BREVE"),
   (0x11f, "LATIN SMALL LETTER G WITH BREVE|LATIN CAPITAL LETTER G WITH DOT ABOVE"),
   (0x121, "LATIN SMALL LETTER G WITH DOT ABOVE|LATIN CAPITAL LETTER G WITH CEDILLA"),
   (0x123, "LATIN SMALL LETTER G WITH CEDILLA|LATIN CAPITAL LETTER H WITH CIRCUMFLEX"),
   (0x125, "LATIN SMALL LETTER H WITH CIRCUMFLEX|LATIN CAPITAL LETTER H WITH STROKE"),
   (0x127, "LATIN SMALL LETTER H WITH STROKE|LATIN CAPITAL LETTER I WITH TILDE"),
   (0x129, "LATIN SMALL LETTER I WITH TILDE|LATIN CAPITAL LETTER I WITH MACRON"),
   (0x12b, "LATIN SMALL LETTER I WITH MACRON|LATIN CAPITAL LETTER I WITH BREVE"),
   (0x12d, "LATIN SMALL LETTER I WITH BREVE|LATIN CAPITAL LETTER I WITH OGONEK"),
   (0x12f, "LATIN SMALL LETTER I WITH OGONEK|LATIN CAPITAL LETTER I WITH DOT ABOVE"),
   (0x131, "LATIN SMALL LETTER DOTLESS I|LATIN CAPITAL LIGATURE IJ|LATIN SMALL LIGATURE IJ"),
   (0x134, "LATIN CAPITAL LETTER J WITH CIRCUMFLEX|LATIN SMALL LETTER J WITH CIRCUMFLEX"),
   (0x136, "LATIN CAPITAL LETTER K WITH CEDILLA|LATIN SMALL LETTER K WITH CEDILLA|LATIN SMALL LETTER KRA"),
   (0x139, "LATIN CAPITAL LETTER L WITH ACUTE|LATIN SMALL LETTER L WITH ACUTE"),
   (0x13b, "LATIN CAPITAL LETTER L WITH CEDILLA|LATIN SMALL LETTER L WITH CEDILLA"),
   (0x13d, "LATIN CAPITAL LETTER L WITH CARON|LATIN SMALL LETTER L WITH CARON"),
   (0x13f, "LATIN CAPITAL LETTER L WITH MIDDLE DOT|LATIN SMALL LETTER L WITH MIDDLE DOT"),
   (0x141, "LATIN CAPITAL LETTER L WITH STROKE|LATIN SMALL LETTER L WITH STROKE"),
   (0x143, "LATIN CAPITAL LETTER N WITH ACUTE|LATIN SMALL LETTER N WITH ACUTE"),
   (0x145, "LATIN CAPITAL LETTER N WITH CEDILLA|LATIN SMALL LETTER N WITH CEDILLA"),
   (0x147, "LATIN CAPITAL LETTER N WITH CARON|LATIN SMALL LETTER N WITH CARON"),
   (0x149, "LATIN SMALL LETTER N PRECEDED BY APOSTROPHE|LATIN CAPITAL LETTER ENG|LATIN SMALL LETTER ENG"),
   (0x14c, "LATIN CAPITAL LETTER O WITH MACRON|LATIN SMALL LETTER O WITH MACRON"),
   (0x14e, "LATIN CAPITAL LETTER O WITH BREVE|LATIN SMALL LETTER O WITH BREVE"),
   (0x150, "LATIN CAPITAL LETTER O WITH DOUBLE ACUTE|LATIN SMALL LETTER O WITH DOUBLE ACUTE"),
   (0x152, "LATIN CAPITAL LIGATURE OE|LATIN SMALL LIGATURE OE|LATIN CAPITAL LETTER R WITH ACUTE"),
   (0x155, "LATIN SMALL LETTER R WITH ACUTE|LATIN CAPITAL LETTER R WITH CEDILLA"),
   (0x157, "LATIN SMALL LETTER R WITH CEDILLA|LATIN CAPITAL LETTER R WITH CARON"),
   (0x159, "LATIN SMALL LETTER R WITH CARON|LATIN CAPITAL LETTER S WITH ACUTE"),
   (0x15b, "LATIN SMALL LETTER S WITH ACUTE|LATIN CAPITAL LETTER S WITH CIRCUMFLEX"),
   (0x15d, "LATIN SMALL LETTER S WITH CIRCUMFLEX|LATIN CAPITAL LETTER S WITH CEDILLA"),
   (0x15f, "LATIN SMALL LETTER S WITH CEDILLA|LATIN CAPITAL LETTER S WITH CARON"),
   (0x161, "LATIN SMALL LETTER S WITH CARON|LATIN CAPITAL LETTER T WITH CEDILLA"),
   (0x163, "LATIN SMALL LETTER T WITH CEDILLA|LATIN CAPITAL LETTER T WITH CARON"),
   (0x165, "LATIN SMALL LETTER T WITH CARON|LATIN CAPITAL LETTER T WITH STROKE"),
   (0x167, "LATIN SMALL LETTER T WITH STROKE|LATIN CAPITAL LETTER U WITH TILDE"),
   (0x169, "LATIN SMALL LETTER U WITH TILDE|LATIN CAPITAL LETTER U WITH MACRON"),
   (0x16b, "LATIN SMALL LETTER U WITH MACRON|LATIN CAPITAL LETTER U WITH BREVE"),
   (0x16d, "LATIN SMALL LETTER U WITH BREVE|LATIN CAPITAL LETTER U WITH RING ABOVE"),
   (0x16f, "LATIN SMALL LETTER U WITH RING ABOVE|LATIN CAPITAL LETTER U WITH DOUBLE ACUTE"),
   (0x171, "LATIN SMALL LETTER U WITH DOUBLE ACUTE|LATIN CAPITAL LETTER U WITH OGONEK"),
   (0x173, "LATIN SMALL LETTER U WITH OGONEK|LATIN CAPITAL LETTER W WITH CIRCUMFLEX"),
   (0x175, "LATIN SMALL LETTER W WITH CIRCUMFLEX|LATIN CAPITAL LETTER Y WITH CIRCUMFLEX"),
   (0x177, "LATIN SMALL LETTER Y WITH CIRCUMFLEX|LATIN CAPITAL LETTER Y WITH DIAERESIS"),
   (0x179, "LATIN CAPITAL LETTER Z WITH ACUTE|LATIN SMALL LETTER Z WITH ACUTE"),
   (0x17b, "LATIN CAPITAL LETTER Z WITH DOT ABOVE|LATIN SMALL LETTER Z WITH DOT ABOVE"),
   (0x17d, "LATIN CAPITAL LETTER Z WITH CARON|LATIN SMALL LETTER Z WITH CARON|LATIN SMALL LETTER LONG S"),
   (0x370, "GREEK CAPITAL LETTER HETA|GREEK SMALL LETTER HETA|GREEK CAPITAL LETTER ARCHAIC SAMPI"),
   (0x373, "GREEK SMALL LETTER ARCHAIC SAMPI|GREEK NUMERAL SIGN|GREEK LOWER NUMERAL SIGN"),
   (0x376, "GREEK CAPITAL LETTER PAMPHYLIAN DIGAMMA|GREEK SMALL LETTER PAMPHYLIAN DIGAMMA||"),
   (0x37a, "GREEK YPOGEGRAMMENI|GREEK SMALL REVERSED LUNATE SIGMA SYMBOL"),
   (0x37c, "GREEK SMALL DOTTED LUNATE SIGMA SYMBOL|GREEK SMALL REVERSED DOTTED LUNATE SIGMA SYMBOL"),
   (0x37e, "GREEK QUESTION MARK|GREEK CAPITAL LETTER YOT|||||GREEK TONOS|GREEK DIALYTIKA TONOS"),
   (0x386, "GREEK CAPITAL LETTER ALPHA WITH TONOS|GREEK ANO TELEIA"),
   (0x388, "GREEK CAPITAL LETTER EPSILON WITH TONOS|GREEK CAPITAL LETTER ETA WITH TONOS"),
   (0x38a, "GREEK CAPITAL LETTER IOTA WITH TONOS||GREEK CAPITAL LETTER OMICRON WITH TONOS|"),
   (0x38e, "GREEK CAPITAL LETTER UPSILON WITH TONOS|GREEK CAPITAL LETTER OMEGA WITH TONOS"),
   (0x390, "GREEK SMALL LETTER IOTA WITH DIALYTIKA AND TONOS|GREEK CAPITAL LETTER ALPHA"),
   (0x392, "GREEK CAPITAL LETTER BETA|GREEK CAPITAL LETTER GAMMA|GREEK CAPITAL LETTER DELTA"),
   (0x395, "GREEK CAPITAL LETTER EPSILON|GREEK CAPITAL LETTER ZETA|GREEK CAPITAL LETTER ETA"),
   (0x398, "GREEK CAPITAL LETTER THETA|GREEK CAPITAL LETTER IOTA|GREEK CAPITAL LETTER KAPPA"),
   (0x39b, "GREEK CAPITAL LETTER LAMDA|GREEK CAPITAL LETTER MU|GREEK CAPITAL LETTER NU"),
   (0x39e, "GREEK CAPITAL LETTER XI|GREEK CAPITAL LETTER OMICRON|GREEK CAPITAL LETTER PI"),
   (0x3a1, "GREEK CAPITAL LETTER RHO||GREEK CAPITAL LETTER SIGMA|GREEK CAPITAL LETTER TAU"),
   (0x3a5, "GREEK CAPITAL LETTER UPSILON|GREEK CAPITAL LETTER PHI|GREEK CAPITAL LETTER CHI"),
   (0x3a8, "GREEK CAPITAL LETTER PSI|GREEK CAPITAL LETTER OMEGA|GREEK CAPITAL LETTER IOTA WITH DIALYTIKA"),
   (0x3ab, "GREEK CAPITAL LETTER UPSILON WITH DIALYTIKA|GREEK SMALL LETTER ALPHA WITH TONOS"),
   (0x3ad, "GREEK SMALL LETTER EPSILON WITH TONOS|GREEK SMALL LETTER ETA WITH TONOS"),
   (0x3af, "GREEK SMALL LETTER IOTA WITH TONOS|GREEK SMALL LETTER UPSILON WITH DIALYTIKA AND TONOS"),
   (0x3b1, "GREEK SMALL LETTER ALPHA|GREEK SMALL LETTER BETA|GREEK SMALL LETTER GAMMA"),
   (0x3b4, "GREEK SMALL LETTER DELTA|GREEK SMALL LETTER EPSILON|GREEK SMALL LETTER ZETA"),
   (0x3b7, "GREEK SMALL LETTER ETA|GREEK SMALL LETTER THETA|GREEK SMALL LETTER IOTA"),
   (0x3ba, "GREEK SMALL LETTER KAPPA|GREEK SMALL LETTER LAMDA|GREEK SMALL LETTER MU"),
   (0x3bd, "GREEK SMALL LETTER NU|GREEK SMALL LETTER XI|GREEK SMALL LETTER OMICRON|GREEK SMALL LETTER PI"),
   (0x3c1, "GREEK SMALL LETTER RHO|GREEK SMALL LETTER FINAL SIGMA|GREEK SMALL LETTER SIGMA"),
   (0x3c4, "GREEK SMALL LETTER TAU|GREEK SMALL LETTER UPSILON|GREEK SMALL LETTER PHI"),
   (0x3c7, "GREEK SMALL LETTER CHI|GREEK SMALL LETTER PSI|GREEK SMALL LETTER OMEGA"),
   (0x3ca, "GREEK SMALL LETTER IOTA WITH DIALYTIKA|GREEK SMALL LETTER UPSILON WITH DIALYTIKA"),
   (0x3cc, "GREEK SMALL LETTER OMICRON WITH TONOS|GREEK SMALL LETTER UPSILON WITH TONOS"),
   (0x3ce, "GREEK SMALL LETTER OMEGA WITH TONOS|GREEK CAPITAL KAI SYMBOL|GREEK BETA SYMBOL"),
   (0x3d1, "GREEK THETA SYMBOL|GREEK UPSILON WITH HOOK SYMBOL|GREEK UPSILON WITH ACUTE AND HOOK SYMBOL"),
   (0x3d4, "GREEK UPSILON WITH DIAERESIS AND HOOK SYMBOL|GREEK PHI SYMBOL|GREEK PI SYMBOL"),
   (0x3d7, "GREEK KAI SYMBOL|GREEK LETTER ARCHAIC KOPPA|GREEK SMALL LETTER ARCHAIC KOPPA"),
   (0x3da, "GREEK LETTER STIGMA|GREEK SMALL LETTER STIGMA|GREEK LETTER DIGAMMA"),
   (0x3dd, "GREEK SMALL LETTER DIGAMMA|GREEK LETTER KOPPA|GREEK SMALL LETTER KOPPA|GREEK LETTER SAMPI"),
   (0x3e1, "GREEK SMALL LETTER SAMPI|COPTIC CAPITAL LETTER SHEI|COPTIC SMALL LETTER SHEI"),
   (0x3e4, "COPTIC CAPITAL LETTER FEI|COPTIC SMALL LETTER FEI|COPTIC CAPITAL LETTER KHEI"),
   (0x3e7, "COPTIC SMALL LETTER KHEI|COPTIC CAPITAL LETTER HORI|COPTIC SMALL LETTER HORI"),
   (0x3ea, "COPTIC CAPITAL LETTER GANGIA|COPTIC SMALL LETTER GANGIA|COPTIC CAPITAL LETTER SHIMA"),
   (0x3ed, "COPTIC SMALL LETTER SHIMA|COPTIC CAPITAL LETTER DEI|COPTIC SMALL LETTER DEI"),
   (0x3f0, "GREEK KAPPA SYMBOL|GREEK RHO SYMBOL|GREEK LUNATE SIGMA SYMBOL|GREEK LETTER YOT"),
   (0x3f4, "GREEK CAPITAL THETA SYMBOL|GREEK LUNATE EPSILON SYMBOL|GREEK REVERSED LUNATE EPSILON SYMBOL"),
   (0x3f7, "GREEK CAPITAL LETTER SHO|GREEK SMALL LETTER SHO|GREEK CAPITAL LUNATE SIGMA SYMBOL"),
   (0x3fa, "GREEK CAPITAL LETTER SAN|GREEK SMALL LETTER SAN|GREEK RHO WITH STROKE SYMBOL"),
   (0x3fd, "GREEK CAPITAL REVERSED LUNATE SIGMA SYMBOL|GREEK CAPITAL DOTTED LUNATE SIGMA SYMBOL"),
   (0x3ff, "GREEK CAPITAL REVERSED DOTTED LUNATE SIGMA SYMBOL"),
   (0x2000, "EN QUAD|EM QUAD|EN SPACE|EM SPACE|THREE-PER-EM SPACE|FOUR-PER-EM SPACE|SIX-PER-EM SPACE"),
   (0x2007, "FIGURE SPACE|PUNCTUATION SPACE|THIN SPACE|HAIR SPACE|ZERO WIDTH SPACE|ZERO WIDTH NON-JOINER"),
   (0x200d, "ZERO WIDTH JOINER|LEFT-TO-RIGHT MARK|RIGHT-TO-LEFT MARK|HYPHEN|NON-BREAKING HYPHEN"),
   (0x2012, "FIGURE DASH|EN DASH|EM DASH|HORIZONTAL BAR|DOUBLE VERTICAL LINE|DOUBLE LOW LINE"),
   (0x2018, "LEFT SINGLE QUOTATION MARK|RIGHT SINGLE QUOTATION MARK|SINGLE LOW-9 QUOTATION MARK"),
   (0x201b, "SINGLE HIGH-REVERSED-9 QUOTATION MARK|LEFT DOUBLE QUOTATION MARK|RIGHT DOUBLE QUOTATION MARK"),
   (0x201e, "DOUBLE LOW-9 QUOTATION MARK|DOUBLE HIGH-REVERSED-9 QUOTATION MARK|DAGGER|DOUBLE DAGGER"),
   (0x2022, "BULLET|TRIANGULAR BULLET|ONE DOT LEADER|TWO DOT LEADER|HORIZONTAL ELLIPSIS|HYPHENATION POINT"),
   (0x2028, "LINE SEPARATOR|PARAGRAPH SEPARATOR|LEFT-TO-RIGHT EMBEDDING|RIGHT-TO-LEFT EMBEDDING"),
   (0x202c, "POP DIRECTIONAL FORMATTING|LEFT-TO-RIGHT OVERRIDE|RIGHT-TO-LEFT OVERRIDE"),
   (0x202f, "NARROW NO-BREAK SPACE|PER MILLE SIGN|PER TEN THOUSAND SIGN|PRIME|DOUBLE PRIME|TRIPLE PRIME"),
   (0x2035, "REVERSED PRIME|REVERSED DOUBLE PRIME|REVERSED TRIPLE PRIME|CARET"),
   (0x2039, "SINGLE LEFT-POINTING ANGLE QUOTATION MARK|SINGLE RIGHT-POINTING ANGLE QUOTATION MARK"),
   (0x203b, "REFERENCE MARK|DOUBLE EXCLAMATION MARK|INTERROBANG|OVERLINE|UNDERTIE|CHARACTER TIE"),
   (0x2041, "CARET INSERTION POINT|ASTERISM|HYPHEN BULLET|FRACTION SLASH|LEFT SQUARE BRACKET WITH QUILL"),
   (0x2046, "RIGHT SQUARE BRACKET WITH QUILL|DOUBLE QUESTION MARK|QUESTION EXCLAMATION MARK"),
   (0x2049, "EXCLAMATION QUESTION MARK|TIRONIAN SIGN ET|REVERSED PILCROW SIGN|BLACK LEFTWARDS BULLET"),
   (0x204d, "BLACK RIGHTWARDS BULLET|LOW ASTERISK|REVERSED SEMICOLON|CLOSE UP"),
   (0x2051, "TWO ASTERISKS ALIGNED VERTICALLY|COMMERCIAL MINUS SIGN|SWUNG DASH|INVERTED UNDERTIE"),
   (0x2055, "FLOWER PUNCTUATION MARK|THREE DOT PUNCTUATION|QUADRUPLE PRIME|FOUR DOT PUNCTUATION"),
   (0x2059, "FIVE DOT PUNCTUATION|TWO DOT PUNCTUATION|FOUR DOT MARK|DOTTED CROSS|TRICOLON"),
   (0x205e, "VERTICAL FOUR DOTS|MEDIUM MATHEMATICAL SPACE|WORD JOINER|FUNCTION APPLICATION"),
   (0x2062, "INVISIBLE TIMES|INVISIBLE SEPARATOR|INVISIBLE PLUS||LEFT-TO-RIGHT ISOLATE"),
   (0x2067, "RIGHT-TO-LEFT ISOLATE|FIRST STRONG ISOLATE|POP DIRECTIONAL ISOLATE"),
   (0x206a, "INHIBIT SYMMETRIC SWAPPING|ACTIVATE SYMMETRIC SWAPPING|INHIBIT ARABIC FORM SHAPING"),
   (0x206d, "ACTIVATE ARABIC FORM SHAPING|NATIONAL DIGIT SHAPES|NOMINAL DIGIT SHAPES"),
   (0x20a0, "EURO-CURRENCY SIGN|COLON SIGN|CRUZEIRO SIGN|FRENCH FRANC SIGN|LIRA SIGN|MILL SIGN|NAIRA SIGN"),
   (0x20a7, "PESETA SIGN|RUPEE SIGN|WON SIGN|NEW SHEQEL SIGN|DONG SIGN|EURO SIGN|KIP SIGN|TUGRIK SIGN"),
   (0x20af, "DRACHMA SIGN|GERMAN PENNY SIGN|PESO SIGN|GUARANI SIGN|AUSTRAL SIGN|HRYVNIA SIGN|CEDI SIGN"),
   (0x20b6, "LIVRE TOURNOIS SIGN|SPESMILO SIGN|TENGE SIGN|INDIAN RUPEE SIGN|TURKISH LIRA SIGN"),
   (0x20bb, "NORDIC MARK SIGN|MANAT SIGN|RUBLE SIGN|LARI SIGN|BITCOIN SIGN|SOM SIGN"),
   (0x2100, "ACCOUNT OF|ADDRESSED TO THE SUBJECT|DOUBLE-STRUCK CAPITAL C|DEGREE CELSIUS"),
   (0x2104, "CENTRE LINE SYMBOL|CARE OF|CADA UNA|EULER CONSTANT|SCRUPLE|DEGREE FAHRENHEIT|SCRIPT SMALL G"),
   (0x210b, "SCRIPT CAPITAL H|BLACK-LETTER CAPITAL H|DOUBLE-STRUCK CAPITAL H|PLANCK CONSTANT"),
   (0x210f, "PLANCK CONSTANT OVER TWO PI|SCRIPT CAPITAL I|BLACK-LETTER CAPITAL I|SCRIPT CAPITAL L"),
   (0x2113, "SCRIPT SMALL L|L B BAR SYMBOL|DOUBLE-STRUCK CAPITAL N|NUMERO SIGN|SOUND RECORDING COPYRIGHT"),
   (0x2118, "SCRIPT CAPITAL P|DOUBLE-STRUCK CAPITAL P|DOUBLE-STRUCK CAPITAL Q|SCRIPT CAPITAL R"),
   (0x211c, "BLACK-LETTER CAPITAL R|DOUBLE-STRUCK CAPITAL R|PRESCRIPTION TAKE|RESPONSE|SERVICE MARK"),
   (0x2121, "TELEPHONE SIGN|TRADE MARK SIGN|VERSICLE|DOUBLE-STRUCK CAPITAL Z|OUNCE SIGN|OHM SIGN"),
   (0x2127, "INVERTED OHM SIGN|BLACK-LETTER CAPITAL Z|TURNED GREEK SMALL LETTER IOTA|KELVIN SIGN"),
   (0x212b, "ANGSTROM SIGN|SCRIPT CAPITAL B|BLACK-LETTER CAPITAL C|ESTIMATED SYMBOL|SCRIPT SMALL E"),
   (0x2130, "SCRIPT CAPITAL E|SCRIPT CAPITAL F|TURNED CAPITAL F|SCRIPT CAPITAL M|SCRIPT SMALL O"),
   (0x2135, "ALEF SYMBOL|BET SYMBOL|GIMEL SYMBOL|DALET SYMBOL|INFORMATION SOURCE|ROTATED CAPITAL Q"),
   (0x213b, "FACSIMILE SIGN|DOUBLE-STRUCK SMALL PI|DOUBLE-STRUCK SMALL GAMMA|DOUBLE-STRUCK CAPITAL GAMMA"),
   (0x213f, "DOUBLE-STRUCK CAPITAL PI|DOUBLE-STRUCK N-ARY SUMMATION|TURNED SANS-SERIF CAPITAL G"),
   (0x2142, "TURNED SANS-SERIF CAPITAL L|REVERSED SANS-SERIF CAPITAL L|TURNED SANS-SERIF CAPITAL Y"),
   (0x2145, "DOUBLE-STRUCK ITALIC CAPITAL D|DOUBLE-STRUCK ITALIC SMALL D|DOUBLE-STRUCK ITALIC SMALL E"),
   (0x2148, "DOUBLE-STRUCK ITALIC SMALL I|DOUBLE-STRUCK ITALIC SMALL J|PROPERTY LINE|TURNED AMPERSAND"),
   (0x214c, "PER SIGN|AKTIESELSKAB|TURNED SMALL F|SYMBOL FOR SAMARITAN SOURCE|VULGAR FRACTION ONE SEVENTH"),
   (0x2151, "VULGAR FRACTION ONE NINTH|VULGAR FRACTION ONE TENTH|VULGAR FRACTION ONE THIRD"),
   (0x2154, "VULGAR FRACTION TWO THIRDS|VULGAR FRACTION ONE FIFTH|VULGAR FRACTION TWO FIFTHS"),
   (0x2157, "VULGAR FRACTION THREE FIFTHS|VULGAR FRACTION FOUR FIFTHS|VULGAR FRACTION ONE SIXTH"),
   (0x215a, "VULGAR FRACTION FIVE SIXTHS|VULGAR FRACTION ONE EIGHTH|VULGAR FRACTION THREE EIGHTHS"),
   (0x215d, "VULGAR FRACTION FIVE EIGHTHS|VULGAR FRACTION SEVEN EIGHTHS|FRACTION NUMERATOR ONE"),
   (0x2160, "ROMAN NUMERAL ONE|ROMAN NUMERAL TWO|ROMAN NUMERAL THREE|ROMAN NUMERAL FOUR"),
   (0x2164, "ROMAN NUMERAL FIVE|ROMAN NUMERAL SIX|ROMAN NUMERAL SEVEN|ROMAN NUMERAL EIGHT"),
   (0x2168, "ROMAN NUMERAL NINE|ROMAN NUMERAL TEN|ROMAN NUMERAL ELEVEN|ROMAN NUMERAL TWELVE"),
   (0x216c, "ROMAN NUMERAL FIFTY|ROMAN NUMERAL ONE HUNDRED|ROMAN NUMERAL FIVE HUNDRED"),
   (0x216f, "ROMAN NUMERAL ONE THOUSAND|SMALL ROMAN NUMERAL ONE|SMALL ROMAN NUMERAL TWO"),
   (0x2172, "SMALL ROMAN NUMERAL THREE|SMALL ROMAN NUMERAL FOUR|SMALL ROMAN NUMERAL FIVE"),
   (0x2175, "SMALL ROMAN NUMERAL SIX|SMALL ROMAN NUMERAL SEVEN|SMALL ROMAN NUMERAL EIGHT"),
   (0x2178, "SMALL ROMAN NUMERAL NINE|SMALL ROMAN NUMERAL TEN|SMALL ROMAN NUMERAL ELEVEN"),
   (0x217b, "SMALL ROMAN NUMERAL TWELVE|SMALL ROMAN NUMERAL FIFTY|SMALL ROMAN NUMERAL ONE HUNDRED"),
   (0x217e, "SMALL ROMAN NUMERAL FIVE HUNDRED|SMALL ROMAN NUMERAL ONE THOUSAND"),
   (0x2180, "ROMAN NUMERAL ONE THOUSAND C D|ROMAN NUMERAL FIVE THOUSAND|ROMAN NUMERAL TEN THOUSAND"),
   (0x2183, "ROMAN NUMERAL REVERSED ONE HUNDRED|LATIN SMALL LETTER REVERSED C|ROMAN NUMERAL SIX LATE FORM"),
   (0x2186, "ROMAN NUMERAL FIFTY EARLY FORM|ROMAN NUMERAL FIFTY THOUSAND"),
   (0x2188, "ROMAN NUMERAL ONE HUNDRED THOUSAND|VULGAR FRACTION ZERO THIRDS|TURNED DIGIT TWO"),
   (0x218b, "TURNED DIGIT THREE"),
   (0x2190, "LEFTWARDS ARROW|UPWARDS ARROW|RIGHTWARDS ARROW|DOWNWARDS ARROW|LEFT RIGHT ARROW"),
   (0x2195, "UP DOWN ARROW|NORTH WEST ARROW|NORTH EAST ARROW|SOUTH EAST ARROW|SOUTH WEST ARROW"),
   (0x219a, "LEFTWARDS ARROW WITH STROKE|RIGHTWARDS ARROW WITH STROKE|LEFTWARDS WAVE ARROW"),
   (0x219d, "RIGHTWARDS WAVE ARROW|LEFTWARDS TWO HEADED ARROW|UPWARDS TWO HEADED ARROW"),
   (0x21a0, "RIGHTWARDS TWO HEADED ARROW|DOWNWARDS TWO HEADED ARROW|LEFTWARDS ARROW WITH TAIL"),
   (0x21a3, "RIGHTWARDS ARROW WITH TAIL|LEFTWARDS ARROW FROM BAR|UPWARDS ARROW FROM BAR"),
   (0x21a6, "RIGHTWARDS ARROW FROM BAR|DOWNWARDS ARROW FROM BAR|UP DOWN ARROW WITH BASE"),
   (0x21a9, "LEFTWARDS ARROW WITH HOOK|RIGHTWARDS ARROW WITH HOOK|LEFTWARDS ARROW WITH LOOP"),
   (0x21ac, "RIGHTWARDS ARROW WITH LOOP|LEFT RIGHT WAVE ARROW|LEFT RIGHT ARROW WITH STROKE"),
   (0x21af, "DOWNWARDS ZIGZAG ARROW|UPWARDS ARROW WITH TIP LEFTWARDS|UPWARDS ARROW WITH TIP RIGHTWARDS"),
   (0x21b2, "DOWNWARDS ARROW WITH TIP LEFTWARDS|DOWNWARDS ARROW WITH TIP RIGHTWARDS"),
   (0x21b4, "RIGHTWARDS ARROW WITH CORNER DOWNWARDS|DOWNWARDS ARROW WITH CORNER LEFTWARDS"),
   (0x21b6, "ANTICLOCKWISE TOP SEMICIRCLE ARROW|CLOCKWISE TOP SEMICIRCLE ARROW"),
   (0x21b8, "NORTH WEST ARROW TO LONG BAR|LEFTWARDS ARROW TO BAR OVER RIGHTWARDS ARROW TO BAR"),
   (0x21ba, "ANTICLOCKWISE OPEN CIRCLE ARROW|CLOCKWISE OPEN CIRCLE ARROW"),
   (0x21bc, "LEFTWARDS HARPOON WITH BARB UPWARDS|LEFTWARDS HARPOON WITH BARB DOWNWARDS"),
   (0x21be, "UPWARDS HARPOON WITH BARB RIGHTWARDS|UPWARDS HARPOON WITH BARB LEFTWARDS"),
   (0x21c0, "RIGHTWARDS HARPOON WITH BARB UPWARDS|RIGHTWARDS HARPOON WITH BARB DOWNWARDS"),
   (0x21c2, "DOWNWARDS HARPOON WITH BARB RIGHTWARDS|DOWNWARDS HARPOON WITH BARB LEFTWARDS"),
   (0x21c4, "RIGHTWARDS ARROW OVER LEFTWARDS ARROW|UPWARDS ARROW LEFTWARDS OF DOWNWARDS ARROW"),
   (0x21c6, "LEFTWARDS ARROW OVER RIGHTWARDS ARROW|LEFTWARDS PAIRED ARROWS|UPWARDS PAIRED ARROWS"),
   (0x21c9, "RIGHTWARDS PAIRED ARROWS|DOWNWARDS PAIRED ARROWS|LEFTWARDS HARPOON OVER RIGHTWARDS HARPOON"),
   (0x21cc, "RIGHTWARDS HARPOON OVER LEFTWARDS HARPOON|LEFTWARDS DOUBLE ARROW WITH STROKE"),
   (0x21ce, "LEFT RIGHT DOUBLE ARROW WITH STROKE|RIGHTWARDS DOUBLE ARROW WITH STROKE"),
   (0x21d0, "LEFTWARDS DOUBLE ARROW|UPWARDS DOUBLE ARROW|RIGHTWARDS DOUBLE ARROW|DOWNWARDS DOUBLE ARROW"),
   (0x21d4, "LEFT RIGHT DOUBLE ARROW|UP DOWN DOUBLE ARROW|NORTH WEST DOUBLE ARROW|NORTH EAST DOUBLE ARROW"),
   (0x21d8, "SOUTH EAST DOUBLE ARROW|SOUTH WEST DOUBLE ARROW|LEFTWARDS TRIPLE ARROW"),
   (0x21db, "RIGHTWARDS TRIPLE ARROW|LEFTWARDS SQUIGGLE ARROW|RIGHTWARDS SQUIGGLE ARROW"),
   (0x21de, "UPWARDS ARROW WITH DOUBLE STROKE|DOWNWARDS ARROW WITH DOUBLE STROKE|LEFTWARDS DASHED ARROW"),
   (0x21e1, "UPWARDS DASHED ARROW|RIGHTWARDS DASHED ARROW|DOWNWARDS DASHED ARROW|LEFTWARDS ARROW TO BAR"),
   (0x21e5, "RIGHTWARDS ARROW TO BAR|LEFTWARDS WHITE ARROW|UPWARDS WHITE ARROW|RIGHTWARDS WHITE ARROW"),
   (0x21e9, "DOWNWARDS WHITE ARROW|UPWARDS WHITE ARROW FROM BAR|UPWARDS WHITE ARROW ON PEDESTAL"),
   (0x21ec, "UPWARDS WHITE ARROW ON PEDESTAL WITH HORIZONTAL BAR"),
   (0x21ed, "UPWARDS WHITE ARROW ON PEDESTAL WITH VERTICAL BAR|UPWARDS WHITE DOUBLE ARROW"),
   (0x21ef, "UPWARDS WHITE DOUBLE ARROW ON PEDESTAL|RIGHTWARDS WHITE ARROW FROM WALL"),
   (0x21f1, "NORTH WEST ARROW TO CORNER|SOUTH EAST ARROW TO CORNER|UP DOWN WHITE ARROW"),
   (0x21f4, "RIGHT ARROW WITH SMALL CIRCLE|DOWNWARDS ARROW LEFTWARDS OF UPWARDS ARROW"),
   (0x21f6, "THREE RIGHTWARDS ARROWS|LEFTWARDS ARROW WITH VERTICAL STROKE"),
   (0x21f8, "RIGHTWARDS ARROW WITH VERTICAL STROKE|LEFT RIGHT ARROW WITH VERTICAL STROKE"),
   (0x21fa, "LEFTWARDS ARROW WITH DOUBLE VERTICAL STROKE|RIGHTWARDS ARROW WITH DOUBLE VERTICAL STROKE"),
   (0x21fc, "LEFT RIGHT ARROW WITH DOUBLE VERTICAL STROKE|LEFTWARDS OPEN-HEADED ARROW"),
   (0x21fe, "RIGHTWARDS OPEN-HEADED ARROW|LEFT RIGHT OPEN-HEADED ARROW"),
   (0x2200, "FOR ALL|COMPLEMENT|PARTIAL DIFFERENTIAL|THERE EXISTS|THERE DOES NOT EXIST|EMPTY SET"),
   (0x2206, "INCREMENT|NABLA|ELEMENT OF|NOT AN ELEMENT OF|SMALL ELEMENT OF|CONTAINS AS MEMBER"),
   (0x220c, "DOES NOT CONTAIN AS MEMBER|SMALL CONTAINS AS MEMBER|END OF PROOF|N-ARY PRODUCT"),
   (0x2210, "N-ARY COPRODUCT|N-ARY SUMMATION|MINUS SIGN|MINUS-OR-PLUS SIGN|DOT PLUS|DIVISION SLASH"),
   (0x2216, "SET MINUS|ASTERISK OPERATOR|RING OPERATOR|BULLET OPERATOR|SQUARE ROOT|CUBE ROOT|FOURTH ROOT"),
   (0x221d, "PROPORTIONAL TO|INFINITY|RIGHT ANGLE|ANGLE|MEASURED ANGLE|SPHERICAL ANGLE|DIVIDES"),
   (0x2224, "DOES NOT DIVIDE|PARALLEL TO|NOT PARALLEL TO|LOGICAL AND|LOGICAL OR|INTERSECTION|UNION"),
   (0x222b, "INTEGRAL|DOUBLE INTEGRAL|TRIPLE INTEGRAL|CONTOUR INTEGRAL|SURFACE INTEGRAL|VOLUME INTEGRAL"),
   (0x2231, "CLOCKWISE INTEGRAL|CLOCKWISE CONTOUR INTEGRAL|ANTICLOCKWISE CONTOUR INTEGRAL|THEREFORE"),
   (0x2235, "BECAUSE|RATIO|PROPORTION|DOT MINUS|EXCESS|GEOMETRIC PROPORTION|HOMOTHETIC|TILDE OPERATOR"),
   (0x223d, "REVERSED TILDE|INVERTED LAZY S|SINE WAVE|WREATH PRODUCT|NOT TILDE|MINUS TILDE"),
   (0x2243, "ASYMPTOTICALLY EQUAL TO|NOT ASYMPTOTICALLY EQUAL TO|APPROXIMATELY EQUAL TO"),
   (0x2246, "APPROXIMATELY BUT NOT ACTUALLY EQUAL TO|NEITHER APPROXIMATELY NOR ACTUALLY EQUAL TO"),
   (0x2248, "ALMOST EQUAL TO|NOT ALMOST EQUAL TO|ALMOST EQUAL OR EQUAL TO|TRIPLE TILDE|ALL EQUAL TO"),
   (0x224d, "EQUIVALENT TO|GEOMETRICALLY EQUIVALENT TO|DIFFERENCE BETWEEN|APPROACHES THE LIMIT"),
   (0x2251, "GEOMETRICALLY EQUAL TO|APPROXIMATELY EQUAL TO OR THE IMAGE OF"),
   (0x2253, "IMAGE OF OR APPROXIMATELY EQUAL TO|COLON EQUALS|EQUALS COLON|RING IN EQUAL TO|RING EQUAL TO"),
   (0x2258, "CORRESPONDS TO|ESTIMATES|EQUIANGULAR TO|STAR EQUALS|DELTA EQUAL TO|EQUAL TO BY DEFINITION"),
   (0x225e, "MEASURED BY|QUESTIONED EQUAL TO|NOT EQUAL TO|IDENTICAL TO|NOT IDENTICAL TO"),
   (0x2263, "STRICTLY EQUIVALENT TO|LESS-THAN OR EQUAL TO|GREATER-THAN OR EQUAL TO"),
   (0x2266, "LESS-THAN OVER EQUAL TO|GREATER-THAN OVER EQUAL TO|LESS-THAN BUT NOT EQUAL TO"),
   (0x2269, "GREATER-THAN BUT NOT EQUAL TO|MUCH LESS-THAN|MUCH GREATER-THAN|BETWEEN|NOT EQUIVALENT TO"),
   (0x226e, "NOT LESS-THAN|NOT GREATER-THAN|NEITHER LESS-THAN NOR EQUAL TO"),
   (0x2271, "NEITHER GREATER-THAN NOR EQUAL TO|LESS-THAN OR EQUIVALENT TO|GREATER-THAN OR EQUIVALENT TO"),
   (0x2274, "NEITHER LESS-THAN NOR EQUIVALENT TO|NEITHER GREATER-THAN NOR EQUIVALENT TO"),
   (0x2276, "LESS-THAN OR GREATER-THAN|GREATER-THAN OR LESS-THAN|NEITHER LESS-THAN NOR GREATER-THAN"),
   (0x2279, "NEITHER GREATER-THAN NOR LESS-THAN|PRECEDES|SUCCEEDS|PRECEDES OR EQUAL TO"),
   (0x227d, "SUCCEEDS OR EQUAL TO|PRECEDES OR EQUIVALENT TO|SUCCEEDS OR EQUIVALENT TO|DOES NOT PRECEDE"),
   (0x2281, "DOES NOT SUCCEED|SUBSET OF|SUPERSET OF|NOT A SUBSET OF|NOT A SUPERSET OF"),
   (0x2286, "SUBSET OF OR EQUAL TO|SUPERSET OF OR EQUAL TO|NEITHER A SUBSET OF NOR EQUAL TO"),
   (0x2289, "NEITHER A SUPERSET OF NOR EQUAL TO|SUBSET OF WITH NOT EQUAL TO|SUPERSET OF WITH NOT EQUAL TO"),
   (0x228c, "MULTISET|MULTISET MULTIPLICATION|MULTISET UNION"),
   (0x2293, "SQUARE CAP|SQUARE CUP|CIRCLED PLUS|CIRCLED MINUS|CIRCLED TIMES|CIRCLED DIVISION SLASH"),
   (0x2299, "CIRCLED DOT OPERATOR|CIRCLED RING OPERATOR|CIRCLED ASTERISK OPERATOR|CIRCLED EQUALS"),
   (0x229d, "CIRCLED DASH|SQUARED PLUS|SQUARED MINUS|SQUARED TIMES|SQUARED DOT OPERATOR|RIGHT TACK"),
   (0x22a3, "LEFT TACK|DOWN TACK|UP TACK|ASSERTION|MODELS|TRUE|FORCES|TRIPLE VERTICAL BAR RIGHT TURNSTILE"),
   (0x22ab, "DOUBLE VERTICAL BAR DOUBLE RIGHT TURNSTILE|DOES NOT PROVE|NOT TRUE|DOES NOT FORCE"),
   (0x22af, "NEGATED DOUBLE VERTICAL BAR DOUBLE RIGHT TURNSTILE|PRECEDES UNDER RELATION"),
   (0x22b1, "SUCCEEDS UNDER RELATION|NORMAL SUBGROUP OF|CONTAINS AS NORMAL SUBGROUP"),
   (0x22b4, "NORMAL SUBGROUP OF OR EQUAL TO|CONTAINS AS NORMAL SUBGROUP OR EQUAL TO"),
   (0x22b8, "MULTIMAP|HERMITIAN CONJUGATE MATRIX|INTERCALATE|XOR|NAND|NOR|RIGHT ANGLE WITH ARC"),
   (0x22bf, "RIGHT TRIANGLE|N-ARY LOGICAL AND|N-ARY LOGICAL OR|N-ARY INTERSECTION|N-ARY UNION"),
   (0x22c4, "DIAMOND OPERATOR|DOT OPERATOR|STAR OPERATOR|DIVISION TIMES|BOWTIE"),
   (0x22c9, "LEFT NORMAL FACTOR SEMIDIRECT PRODUCT|RIGHT NORMAL FACTOR SEMIDIRECT PRODUCT"),
   (0x22cb, "LEFT SEMIDIRECT PRODUCT|RIGHT SEMIDIRECT PRODUCT|REVERSED TILDE EQUALS|CURLY LOGICAL OR"),
   (0x22cf, "CURLY LOGICAL AND|DOUBLE SUBSET|DOUBLE SUPERSET|DOUBLE INTERSECTION|DOUBLE UNION|PITCHFORK"),
   (0x22d5, "EQUAL AND PARALLEL TO|LESS-THAN WITH DOT|GREATER-THAN WITH DOT|VERY MUCH LESS-THAN"),
   (0x22d9, "VERY MUCH GREATER-THAN|LESS-THAN EQUAL TO OR GREATER-THAN|GREATER-THAN EQUAL TO OR LESS-THAN"),
   (0x22dc, "EQUAL TO OR LESS-THAN|EQUAL TO OR GREATER-THAN|EQUAL TO OR PRECEDES|EQUAL TO OR SUCCEEDS"),
   (0x22e0, "DOES NOT PRECEDE OR EQUAL|DOES NOT SUCCEED OR EQUAL"),
   (0x22e6, "LESS-THAN BUT NOT EQUIVALENT TO|GREATER-THAN BUT NOT EQUIVALENT TO"),
   (0x22e8, "PRECEDES BUT NOT EQUIVALENT TO|SUCCEEDS BUT NOT EQUIVALENT TO|NOT NORMAL SUBGROUP OF"),
   (0x22eb, "DOES NOT CONTAIN AS NORMAL SUBGROUP|NOT NORMAL SUBGROUP OF OR EQUAL TO"),
   (0x22ed, "DOES NOT CONTAIN AS NORMAL SUBGROUP OR EQUAL|VERTICAL ELLIPSIS|MIDLINE HORIZONTAL ELLIPSIS"),
   (0x22f0, "UP RIGHT DIAGONAL ELLIPSIS|DOWN RIGHT DIAGONAL ELLIPSIS"),
   (0x22f2, "ELEMENT OF WITH LONG HORIZONTAL STROKE"),
   (0x22f3, "ELEMENT OF WITH VERTICAL BAR AT END OF HORIZONTAL STROKE"),
   (0x22f4, "SMALL ELEMENT OF WITH VERTICAL BAR AT END OF HORIZONTAL STROKE|ELEMENT OF WITH DOT ABOVE"),
   (0x22f6, "ELEMENT OF WITH OVERBAR|SMALL ELEMENT OF WITH OVERBAR|ELEMENT OF WITH UNDERBAR"),
   (0x22f9, "ELEMENT OF WITH TWO HORIZONTAL STROKES|CONTAINS WITH LONG HORIZONTAL STROKE"),
   (0x22fb, "CONTAINS WITH VERTICAL BAR AT END OF HORIZONTAL STROKE"),
   (0x22fc, "SMALL CONTAINS WITH VERTICAL BAR AT END OF HORIZONTAL STROKE|CONTAINS WITH OVERBAR"),
   (0x22fe, "SMALL CONTAINS WITH OVERBAR|Z NOTATION BAG MEMBERSHIP"),
   (0x25a0, "BLACK SQUARE|WHITE SQUARE|WHITE SQUARE WITH ROUNDED CORNERS"),
   (0x25a3, "WHITE SQUARE CONTAINING BLACK SMALL SQUARE|SQUARE WITH HORIZONTAL FILL"),
   (0x25a5, "SQUARE WITH VERTICAL FILL|SQUARE WITH ORTHOGONAL CROSSHATCH FILL"),
   (0x25a7, "SQUARE WITH UPPER LEFT TO LOWER RIGHT FILL|SQUARE WITH UPPER RIGHT TO LOWER LEFT FILL"),
   (0x25a9, "SQUARE WITH DIAGONAL CROSSHATCH FILL|BLACK SMALL SQUARE|WHITE SMALL SQUARE|BLACK RECTANGLE"),
   (0x25ad, "WHITE RECTANGLE|BLACK VERTICAL RECTANGLE|WHITE VERTICAL RECTANGLE|BLACK PARALLELOGRAM"),
   (0x25b1, "WHITE PARALLELOGRAM|BLACK UP-POINTING TRIANGLE|WHITE UP-POINTING TRIANGLE"),
   (0x25b4, "BLACK UP-POINTING SMALL TRIANGLE|WHITE UP-POINTING SMALL TRIANGLE"),
   (0x25b6, "BLACK RIGHT-POINTING TRIANGLE|WHITE RIGHT-POINTING TRIANGLE"),
   (0x25b8, "BLACK RIGHT-POINTING SMALL TRIANGLE|WHITE RIGHT-POINTING SMALL TRIANGLE"),
   (0x25ba, "BLACK RIGHT-POINTING POINTER|WHITE RIGHT-POINTING POINTER|BLACK DOWN-POINTING TRIANGLE"),
   (0x25bd, "WHITE DOWN-POINTING TRIANGLE|BLACK DOWN-POINTING SMALL TRIANGLE"),
   (0x25bf, "WHITE DOWN-POINTING SMALL TRIANGLE|BLACK LEFT-POINTING TRIANGLE|WHITE LEFT-POINTING TRIANGLE"),
   (0x25c2, "BLACK LEFT-POINTING SMALL TRIANGLE|WHITE LEFT-POINTING SMALL TRIANGLE"),
   (0x25c4, "BLACK LEFT-POINTING POINTER|WHITE LEFT-POINTING POINTER|BLACK DIAMOND|WHITE DIAMOND"),
   (0x25c8, "WHITE DIAMOND CONTAINING BLACK SMALL DIAMOND|FISHEYE|LOZENGE|WHITE CIRCLE|DOTTED CIRCLE"),
   (0x25cd, "CIRCLE WITH VERTICAL FILL|BULLSEYE|BLACK CIRCLE|CIRCLE WITH LEFT HALF BLACK"),
   (0x25d1, "CIRCLE WITH RIGHT HALF BLACK|CIRCLE WITH LOWER HALF BLACK|CIRCLE WITH UPPER HALF BLACK"),
   (0x25d4, "CIRCLE WITH UPPER RIGHT QUADRANT BLACK|CIRCLE WITH ALL BUT UPPER LEFT QUADRANT BLACK"),
   (0x25d6, "LEFT HALF BLACK CIRCLE|RIGHT HALF BLACK CIRCLE|INVERSE BULLET|INVERSE WHITE CIRCLE"),
   (0x25da, "UPPER HALF INVERSE WHITE CIRCLE|LOWER HALF INVERSE WHITE CIRCLE"),
   (0x25dc, "UPPER LEFT QUADRANT CIRCULAR ARC|UPPER RIGHT QUADRANT CIRCULAR ARC"),
   (0x25de, "LOWER RIGHT QUADRANT CIRCULAR ARC|LOWER LEFT QUADRANT CIRCULAR ARC|UPPER HALF CIRCLE"),
   (0x25e1, "LOWER HALF CIRCLE|BLACK LOWER RIGHT TRIANGLE|BLACK LOWER LEFT TRIANGLE"),
   (0x25e4, "BLACK UPPER LEFT TRIANGLE|BLACK UPPER RIGHT TRIANGLE|WHITE BULLET"),
   (0x25e7, "SQUARE WITH LEFT HALF BLACK|SQUARE WITH RIGHT HALF BLACK"),
   (0x25e9, "SQUARE WITH UPPER LEFT DIAGONAL HALF BLACK|SQUARE WITH LOWER RIGHT DIAGONAL HALF BLACK"),
   (0x25eb, "WHITE SQUARE WITH VERTICAL BISECTING LINE|WHITE UP-POINTING TRIANGLE WITH DOT"),
   (0x25ed, "UP-POINTING TRIANGLE WITH LEFT HALF BLACK|UP-POINTING TRIANGLE WITH RIGHT HALF BLACK"),
   (0x25ef, "LARGE CIRCLE|WHITE SQUARE WITH UPPER LEFT QUADRANT|WHITE SQUARE WITH LOWER LEFT QUADRANT"),
   (0x25f2, "WHITE SQUARE WITH LOWER RIGHT QUADRANT|WHITE SQUARE WITH UPPER RIGHT QUADRANT"),
   (0x25f4, "WHITE CIRCLE WITH UPPER LEFT QUADRANT|WHITE CIRCLE WITH LOWER LEFT QUADRANT"),
   (0x25f6, "WHITE CIRCLE WITH LOWER RIGHT QUADRANT|WHITE CIRCLE WITH UPPER RIGHT QUADRANT"),
   (0x25f8, "UPPER LEFT TRIANGLE|UPPER RIGHT TRIANGLE|LOWER LEFT TRIANGLE|WHITE MEDIUM SQUARE"),
   (0x25fc, "BLACK MEDIUM SQUARE|WHITE MEDIUM SMALL SQUARE|BLACK MEDIUM SMALL SQUARE|LOWER RIGHT TRIANGLE"),
   (0x2600, "BLACK SUN WITH RAYS|CLOUD|UMBRELLA|SNOWMAN|COMET|BLACK STAR|WHITE STAR|LIGHTNING"),
   (0x2608, "THUNDERSTORM|SUN|ASCENDING NODE|DESCENDING NODE|CONJUNCTION|OPPOSITION|BLACK TELEPHONE"),
   (0x260f, "WHITE TELEPHONE|BALLOT BOX|BALLOT BOX WITH CHECK|BALLOT BOX WITH X|SALTIRE"),
   (0x2614, "UMBRELLA WITH RAIN DROPS|HOT BEVERAGE|WHITE SHOGI PIECE|BLACK SHOGI PIECE|SHAMROCK"),
   (0x2619, "REVERSED ROTATED FLORAL HEART BULLET|BLACK LEFT POINTING INDEX|BLACK RIGHT POINTING INDEX"),
   (0x261c, "WHITE LEFT POINTING INDEX|WHITE UP POINTING INDEX|WHITE RIGHT POINTING INDEX"),
   (0x261f, "WHITE DOWN POINTING INDEX|SKULL AND CROSSBONES|CAUTION SIGN|RADIOACTIVE SIGN|BIOHAZARD SIGN"),
   (0x2624, "CADUCEUS|ANKH|ORTHODOX CROSS|CHI RHO|CROSS OF LORRAINE|CROSS OF JERUSALEM|STAR AND CRESCENT"),
   (0x262b, "FARSI SYMBOL|ADI SHAKTI|HAMMER AND SICKLE|PEACE SYMBOL|YIN YANG|TRIGRAM FOR HEAVEN"),
   (0x2631, "TRIGRAM FOR LAKE|TRIGRAM FOR FIRE|TRIGRAM FOR THUNDER|TRIGRAM FOR WIND|TRIGRAM FOR WATER"),
   (0x2636, "TRIGRAM FOR MOUNTAIN|TRIGRAM FOR EARTH|WHEEL OF DHARMA|WHITE FROWNING FACE"),
   (0x263a, "WHITE SMILING FACE|BLACK SMILING FACE|WHITE SUN WITH RAYS|FIRST QUARTER MOON"),
   (0x263e, "LAST QUARTER MOON|MERCURY|FEMALE SIGN|EARTH|MALE SIGN|JUPITER|SATURN|URANUS|NEPTUNE|PLUTO"),
   (0x2648, "ARIES|TAURUS|GEMINI|CANCER|LEO|VIRGO|LIBRA|SCORPIUS|SAGITTARIUS|CAPRICORN|AQUARIUS|PISCES"),
   (0x2654, "WHITE CHESS KING|WHITE CHESS QUEEN|WHITE CHESS ROOK|WHITE CHESS BISHOP|WHITE CHESS KNIGHT"),
   (0x2659, "WHITE CHESS PAWN|BLACK CHESS KING|BLACK CHESS QUEEN|BLACK CHESS ROOK|BLACK CHESS BISHOP"),
   (0x265e, "BLACK CHESS KNIGHT|BLACK CHESS PAWN|BLACK SPADE SUIT|WHITE HEART SUIT|WHITE DIAMOND SUIT"),
   (0x2663, "BLACK CLUB SUIT|WHITE SPADE SUIT|BLACK HEART SUIT|BLACK DIAMOND SUIT|WHITE CLUB SUIT"),
   (0x2668, "HOT SPRINGS|QUARTER NOTE|EIGHTH NOTE|BEAMED EIGHTH NOTES|BEAMED SIXTEENTH NOTES"),
   (0x266d, "MUSIC FLAT SIGN|MUSIC NATURAL SIGN|MUSIC SHARP SIGN|WEST SYRIAC CROSS|EAST SYRIAC CROSS"),
   (0x2672, "UNIVERSAL RECYCLING SYMBOL|RECYCLING SYMBOL FOR TYPE-1 PLASTICS"),
   (0x2674, "RECYCLING SYMBOL FOR TYPE-2 PLASTICS|RECYCLING SYMBOL FOR TYPE-3 PLASTICS"),
   (0x2676, "RECYCLING SYMBOL FOR TYPE-4 PLASTICS|RECYCLING SYMBOL FOR TYPE-5 PLASTICS"),
   (0x2678, "RECYCLING SYMBOL FOR TYPE-6 PLASTICS|RECYCLING SYMBOL FOR TYPE-7 PLASTICS"),
   (0x267a, "RECYCLING SYMBOL FOR GENERIC MATERIALS|BLACK UNIVERSAL RECYCLING SYMBOL"),
   (0x267c, "RECYCLED PAPER SYMBOL|PARTIALLY-RECYCLED PAPER SYMBOL|PERMANENT PAPER SIGN|WHEELCHAIR SYMBOL"),
   (0x2680, "DIE FACE-1|DIE FACE-2|DIE FACE-3|DIE FACE-4|DIE FACE-5|DIE FACE-6"),
   (0x2686, "WHITE CIRCLE WITH DOT RIGHT|WHITE CIRCLE WITH TWO DOTS|BLACK CIRCLE WITH WHITE DOT RIGHT"),
   (0x2689, "BLACK CIRCLE WITH TWO WHITE DOTS|MONOGRAM FOR YANG|MONOGRAM FOR YIN|DIGRAM FOR GREATER YANG"),
   (0x268d, "DIGRAM FOR LESSER YIN|DIGRAM FOR LESSER YANG|DIGRAM FOR GREATER YIN|WHITE FLAG|BLACK FLAG"),
   (0x2692, "HAMMER AND PICK|ANCHOR|CROSSED SWORDS|STAFF OF AESCULAPIUS|SCALES|ALEMBIC|FLOWER|GEAR"),
   (0x269a, "STAFF OF HERMES|ATOM SYMBOL|FLEUR-DE-LIS|OUTLINED WHITE STAR|THREE LINES CONVERGING RIGHT"),
   (0x269f, "THREE LINES CONVERGING LEFT|WARNING SIGN|HIGH VOLTAGE SIGN|DOUBLED FEMALE SIGN"),
   (0x26a3, "DOUBLED MALE SIGN|INTERLOCKED FEMALE AND MALE SIGN|MALE AND FEMALE SIGN"),
   (0x26a6, "MALE WITH STROKE SIGN|MALE WITH STROKE AND MALE AND FEMALE SIGN"),
   (0x26a8, "VERTICAL MALE WITH STROKE SIGN|HORIZONTAL MALE WITH STROKE SIGN|MEDIUM WHITE CIRCLE"),
   (0x26ab, "MEDIUM BLACK CIRCLE|MEDIUM SMALL WHITE CIRCLE|MARRIAGE SYMBOL|DIVORCE SYMBOL"),
   (0x26af, "UNMARRIED PARTNERSHIP SYMBOL|COFFIN|FUNERAL URN|NEUTER|CERES|PALLAS|JUNO|VESTA|CHIRON"),
   (0x26b8, "BLACK MOON LILITH|SEXTILE|SEMISEXTILE|QUINCUNX|SESQUIQUADRATE|SOCCER BALL|BASEBALL"),
   (0x26bf, "SQUARED KEY|WHITE DRAUGHTS MAN|WHITE DRAUGHTS KING|BLACK DRAUGHTS MAN|BLACK DRAUGHTS KING"),
   (0x26c4, "SNOWMAN WITHOUT SNOW|SUN BEHIND CLOUD|RAIN|BLACK SNOWMAN|THUNDER CLOUD AND RAIN"),
   (0x26c9, "TURNED WHITE SHOGI PIECE|TURNED BLACK SHOGI PIECE|WHITE DIAMOND IN SQUARE|CROSSING LANES"),
   (0x26cd, "DISABLED CAR|OPHIUCHUS|PICK|CAR SLIDING|HELMET WITH WHITE CROSS|CIRCLED CROSSING LANES"),
   (0x26d3, "CHAINS|NO ENTRY|ALTERNATE ONE-WAY LEFT WAY TRAFFIC|BLACK TWO-WAY LEFT WAY TRAFFIC"),
   (0x26d7, "WHITE TWO-WAY LEFT WAY TRAFFIC|BLACK LEFT LANE MERGE|WHITE LEFT LANE MERGE|DRIVE SLOW SIGN"),
   (0x26db, "HEAVY WHITE DOWN-POINTING TRIANGLE|LEFT CLOSED ENTRY|SQUARED SALTIRE"),
   (0x26de, "FALLING DIAGONAL IN WHITE CIRCLE IN BLACK SQUARE|BLACK TRUCK|RESTRICTED LEFT ENTRY-1"),
   (0x26e1, "RESTRICTED LEFT ENTRY-2|ASTRONOMICAL SYMBOL FOR URANUS"),
   (0x26e3, "HEAVY CIRCLE WITH STROKE AND TWO DOTS ABOVE|PENTAGRAM|RIGHT-HANDED INTERLACED PENTAGRAM"),
   (0x26e6, "LEFT-HANDED INTERLACED PENTAGRAM|INVERTED PENTAGRAM|BLACK CROSS ON SHIELD|SHINTO SHRINE"),
   (0x26ea, "CHURCH|CASTLE|HISTORIC SITE|GEAR WITHOUT HUB|GEAR WITH HANDLES|MAP SYMBOL FOR LIGHTHOUSE"),
   (0x26f0, "MOUNTAIN|UMBRELLA ON GROUND|FOUNTAIN|FLAG IN HOLE|FERRY|SAILBOAT|SQUARE FOUR CORNERS|SKIER"),
   (0x26f8, "ICE SKATE|PERSON WITH BALL|TENT|JAPANESE BANK SYMBOL|HEADSTONE GRAVEYARD SYMBOL|FUEL PUMP"),
   (0x26fe, "CUP ON BLACK SQUARE|WHITE FLAG WITH HORIZONTAL MIDDLE BLACK STRIPE"),
   (0x1f600, "GRINNING FACE|GRINNING FACE WITH SMILING EYES|FACE WITH TEARS OF JOY"),
   (0x1f603, "SMILING FACE WITH OPEN MOUTH|SMILING FACE WITH OPEN MOUTH AND SMILING EYES"),
   (0x1f605, "SMILING FACE WITH OPEN MOUTH AND COLD SWEAT"),
   (0x1f606, "SMILING FACE WITH OPEN MOUTH AND TIGHTLY-CLOSED EYES|SMILING FACE WITH HALO"),
   (0x1f608, "SMILING FACE WITH HORNS|WINKING FACE|SMILING FACE WITH SMILING EYES"),
   (0x1f60b, "FACE SAVOURING DELICIOUS FOOD|RELIEVED FACE|SMILING FACE WITH HEART-SHAPED EYES"),
   (0x1f60e, "SMILING FACE WITH SUNGLASSES|SMIRKING FACE|NEUTRAL FACE|EXPRESSIONLESS FACE|UNAMUSED FACE"),
   (0x1f613, "FACE WITH COLD SWEAT|PENSIVE FACE|CONFUSED FACE|CONFOUNDED FACE|KISSING FACE"),
   (0x1f618, "FACE THROWING A KISS|KISSING FACE WITH SMILING EYES|KISSING FACE WITH CLOSED EYES"),
   (0x1f61b, "FACE WITH STUCK-OUT TONGUE|FACE WITH STUCK-OUT TONGUE AND WINKING EYE"),
   (0x1f61d, "FACE WITH STUCK-OUT TONGUE AND TIGHTLY-CLOSED EYES|DISAPPOINTED FACE|WORRIED FACE|ANGRY FACE"),
   (0x1f621, "POUTING FACE|CRYING FACE|PERSEVERING FACE|FACE WITH LOOK OF TRIUMPH"),
   (0x1f625, "DISAPPOINTED BUT RELIEVED FACE|FROWNING FACE WITH OPEN MOUTH|ANGUISHED FACE|FEARFUL FACE"),
   (0x1f629, "WEARY FACE|SLEEPY FACE|TIRED FACE|GRIMACING FACE|LOUDLY CRYING FACE|FACE WITH OPEN MOUTH"),
   (0x1f62f, "HUSHED FACE|FACE WITH OPEN MOUTH AND COLD SWEAT|FACE SCREAMING IN FEAR|ASTONISHED FACE"),
   (0x1f633, "FLUSHED FACE|SLEEPING FACE|DIZZY FACE|FACE WITHOUT MOUTH|FACE WITH MEDICAL MASK"),
   (0x1f638, "GRINNING CAT FACE WITH SMILING EYES|CAT FACE WITH TEARS OF JOY"),
   (0x1f63a, "SMILING CAT FACE WITH OPEN MOUTH|SMILING CAT FACE WITH HEART-SHAPED EYES"),
   (0x1f63c, "CAT FACE WITH WRY SMILE|KISSING CAT FACE WITH CLOSED EYES|POUTING CAT FACE|CRYING CAT FACE"),
   (0x1f640, "WEARY CAT FACE|SLIGHTLY FROWNING FACE|SLIGHTLY SMILING FACE|UPSIDE-DOWN FACE"),
   (0x1f644, "FACE WITH ROLLING EYES|FACE WITH NO GOOD GESTURE|FACE WITH OK GESTURE|PERSON BOWING DEEPLY"),
   (0x1f648, "SEE-NO-EVIL MONKEY|HEAR-NO-EVIL MONKEY|SPEAK-NO-EVIL MONKEY|HAPPY PERSON RAISING ONE HAND"),
   (0x1f64c, "PERSON RAISING BOTH HANDS IN CELEBRATION|PERSON FROWNING|PERSON WITH POUTING FACE"),
   (0x1f64f, "PERSON WITH FOLDED HANDS")]

/-- Rows of a character and its other names, with a bar between two names. -/
def otherNames : List (Nat × String) :=
  [(0x0, "NULL|NUL"),
   (0x1, "START OF HEADING|SOH"),
   (0x2, "START OF TEXT|STX"),
   (0x3, "END OF TEXT|ETX"),
   (0x4, "END OF TRANSMISSION|EOT"),
   (0x5, "ENQUIRY|ENQ"),
   (0x6, "ACKNOWLEDGE|ACK"),
   (0x7, "ALERT|BEL"),
   (0x8, "BACKSPACE|BS"),
   (0x9, "CHARACTER TABULATION|HORIZONTAL TABULATION|HT|TAB"),
   (0xa, "LINE FEED|NEW LINE|END OF LINE|LF|NL|EOL"),
   (0xb, "LINE TABULATION|VERTICAL TABULATION|VT"),
   (0xc, "FORM FEED|FF"),
   (0xd, "CARRIAGE RETURN|CR"),
   (0xe, "SHIFT OUT|LOCKING-SHIFT ONE|SO"),
   (0xf, "SHIFT IN|LOCKING-SHIFT ZERO|SI"),
   (0x10, "DATA LINK ESCAPE|DLE"),
   (0x11, "DEVICE CONTROL ONE|DC1"),
   (0x12, "DEVICE CONTROL TWO|DC2"),
   (0x13, "DEVICE CONTROL THREE|DC3"),
   (0x14, "DEVICE CONTROL FOUR|DC4"),
   (0x15, "NEGATIVE ACKNOWLEDGE|NAK"),
   (0x16, "SYNCHRONOUS IDLE|SYN"),
   (0x17, "END OF TRANSMISSION BLOCK|ETB"),
   (0x18, "CANCEL|CAN"),
   (0x19, "END OF MEDIUM|EOM"),
   (0x1a, "SUBSTITUTE|SUB"),
   (0x1b, "ESCAPE|ESC"),
   (0x1c, "INFORMATION SEPARATOR FOUR|FILE SEPARATOR|FS"),
   (0x1d, "INFORMATION SEPARATOR THREE|GROUP SEPARATOR|GS"),
   (0x1e, "INFORMATION SEPARATOR TWO|RECORD SEPARATOR|RS"),
   (0x1f, "INFORMATION SEPARATOR ONE|UNIT SEPARATOR|US"),
   (0x20, "SP"),
   (0x7f, "DELETE|DEL"),
   (0x80, "PADDING CHARACTER|PAD"),
   (0x85, "NEXT LINE|NEL"),
   (0xa0, "NBSP"),
   (0xad, "SHY"),
   (0xfeff, "ZERO WIDTH NO-BREAK SPACE|BYTE ORDER MARK|BOM|ZWNBSP"),
   (0xfffd, "REPLACEMENT CHARACTER"),
   (0x200b, "ZWSP"),
   (0x200c, "ZWNJ"),
   (0x200d, "ZWJ"),
   (0x200e, "LRM"),
   (0x200f, "RLM"),
   (0x202a, "LRE"),
   (0x202b, "RLE"),
   (0x202c, "PDF"),
   (0x202d, "LRO"),
   (0x202e, "RLO"),
   (0x202f, "NNBSP"),
   (0x205f, "MMSP"),
   (0x2060, "WJ"),
   (0x34f, "CGJ"),
   (0x2118, "WEIERSTRASS ELLIPTIC FUNCTION"),
   (0x1a2, "LATIN CAPITAL LETTER GHA")]

end CodeAtlas.Text.Table
