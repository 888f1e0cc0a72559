namespace DocFinder.Text

/-- Characters in a row whose names begin with the same words. Their endings are separated by
commas. -/
structure NameRun where
  first : Nat
  stem : String
  endings : String
  deriving DecidableEq, Repr

def nameRuns : List NameRun := [
  ⟨0x20, "", "SPACE, EXCLAMATION MARK, QUOTATION MARK"⟩,
  ⟨0x23, "", "NUMBER SIGN, DOLLAR SIGN, PERCENT SIGN, AMPERSAND, APOSTROPHE, LEFT PARENTHESIS"⟩,
  ⟨0x29, "", "RIGHT PARENTHESIS, ASTERISK, PLUS SIGN, COMMA, HYPHEN-MINUS, FULL STOP, SOLIDUS"⟩,
  ⟨0x30, "DIGIT", "ZERO, ONE, TWO, THREE, FOUR, FIVE, SIX, SEVEN, EIGHT, NINE"⟩,
  ⟨0x3a, "", "COLON, SEMICOLON, LESS-THAN SIGN, EQUALS SIGN, GREATER-THAN SIGN, QUESTION MARK"⟩,
  ⟨0x40, "COMMERCIAL", "AT"⟩,
  ⟨0x41, "LATIN CAPITAL LETTER", "A, B, C, D, E"⟩,
  ⟨0x46, "LATIN CAPITAL LETTER", "F, G, H, I, J, K, L, M, N, O, P, Q, R, S, T, U, V, W, X, Y, Z"⟩,
  ⟨0x5b, "LEFT", "SQUARE BRACKET"⟩,
  ⟨0x5c, "", "REVERSE SOLIDUS, RIGHT SQUARE BRACKET, CIRCUMFLEX ACCENT, LOW LINE, GRAVE ACCENT"⟩,
  ⟨0x61, "LATIN SMALL LETTER", "A, B, C, D, E"⟩,
  ⟨0x66, "LATIN SMALL LETTER", "F, G, H, I, J, K, L, M, N, O, P, Q, R, S, T, U, V, W, X, Y, Z"⟩,
  ⟨0x7b, "", "LEFT CURLY BRACKET, VERTICAL LINE, RIGHT CURLY BRACKET, TILDE"⟩,
  ⟨0xa0, "", "NO-BREAK SPACE, INVERTED EXCLAMATION MARK, CENT SIGN, POUND SIGN"⟩,
  ⟨0xa4, "", "CURRENCY SIGN, YEN SIGN, BROKEN BAR, SECTION SIGN, DIAERESIS, COPYRIGHT SIGN"⟩,
  ⟨0xaa, "", "FEMININE ORDINAL INDICATOR, LEFT-POINTING DOUBLE ANGLE QUOTATION MARK"⟩,
  ⟨0xac, "", "NOT SIGN, SOFT HYPHEN, REGISTERED SIGN, MACRON, DEGREE SIGN, PLUS-MINUS SIGN"⟩,
  ⟨0xb2, "SUPERSCRIPT", "TWO, THREE"⟩,
  ⟨0xb4, "", "ACUTE ACCENT, MICRO SIGN, PILCROW SIGN, MIDDLE DOT, CEDILLA, SUPERSCRIPT ONE"⟩,
  ⟨0xba, "", "MASCULINE ORDINAL INDICATOR, RIGHT-POINTING DOUBLE ANGLE QUOTATION MARK"⟩,
  ⟨0xbc, "VULGAR FRACTION", "ONE QUARTER, ONE HALF, THREE QUARTERS"⟩,
  ⟨0xbf, "INVERTED", "QUESTION MARK"⟩,
  ⟨0xc0, "LATIN CAPITAL LETTER A WITH", "GRAVE, ACUTE, CIRCUMFLEX, TILDE, DIAERESIS, RING ABOVE"⟩,
  ⟨0xc6, "LATIN CAPITAL LETTER", "AE, C WITH CEDILLA"⟩,
  ⟨0xc8, "LATIN CAPITAL LETTER E WITH", "GRAVE, ACUTE, CIRCUMFLEX, DIAERESIS"⟩,
  ⟨0xcc, "LATIN CAPITAL LETTER I WITH", "GRAVE, ACUTE, CIRCUMFLEX, DIAERESIS"⟩,
  ⟨0xd0, "LATIN CAPITAL LETTER", "ETH, N WITH TILDE"⟩,
  ⟨0xd2, "LATIN CAPITAL LETTER O WITH", "GRAVE, ACUTE, CIRCUMFLEX, TILDE, DIAERESIS"⟩,
  ⟨0xd7, "", "MULTIPLICATION SIGN, LATIN CAPITAL LETTER O WITH STROKE"⟩,
  ⟨0xd9, "LATIN CAPITAL LETTER U WITH", "GRAVE, ACUTE, CIRCUMFLEX, DIAERESIS"⟩,
  ⟨0xdd, "LATIN", "CAPITAL LETTER Y WITH ACUTE, CAPITAL LETTER THORN, SMALL LETTER SHARP S"⟩,
  ⟨0xe0, "LATIN SMALL LETTER A WITH", "GRAVE, ACUTE, CIRCUMFLEX, TILDE, DIAERESIS, RING ABOVE"⟩,
  ⟨0xe6, "LATIN SMALL LETTER", "AE, C WITH CEDILLA, E WITH GRAVE, E WITH ACUTE"⟩,
  ⟨0xea, "LATIN SMALL LETTER", "E WITH CIRCUMFLEX, E WITH DIAERESIS, I WITH GRAVE, I WITH ACUTE"⟩,
  ⟨0xee, "LATIN SMALL LETTER", "I WITH CIRCUMFLEX, I WITH DIAERESIS, ETH, N WITH TILDE"⟩,
  ⟨0xf2, "LATIN SMALL LETTER O WITH", "GRAVE, ACUTE, CIRCUMFLEX, TILDE, DIAERESIS"⟩,
  ⟨0xf7, "", "DIVISION SIGN, LATIN SMALL LETTER O WITH STROKE"⟩,
  ⟨0xf9, "LATIN SMALL LETTER U WITH", "GRAVE, ACUTE, CIRCUMFLEX, DIAERESIS"⟩,
  ⟨0xfd, "LATIN SMALL LETTER", "Y WITH ACUTE, THORN, Y WITH DIAERESIS"⟩,
  ⟨0x100, "LATIN", "CAPITAL LETTER A WITH MACRON, SMALL LETTER A WITH MACRON"⟩,
  ⟨0x102, "LATIN", "CAPITAL LETTER A WITH BREVE, SMALL LETTER A WITH BREVE"⟩,
  ⟨0x104, "LATIN", "CAPITAL LETTER A WITH OGONEK, SMALL LETTER A WITH OGONEK"⟩,
  ⟨0x106, "LATIN", "CAPITAL LETTER C WITH ACUTE, SMALL LETTER C WITH ACUTE"⟩,
  ⟨0x108, "LATIN", "CAPITAL LETTER C WITH CIRCUMFLEX, SMALL LETTER C WITH CIRCUMFLEX"⟩,
  ⟨0x10a, "LATIN", "CAPITAL LETTER C WITH DOT ABOVE, SMALL LETTER C WITH DOT ABOVE"⟩,
  ⟨0x10c, "LATIN", "CAPITAL LETTER C WITH CARON, SMALL LETTER C WITH CARON"⟩,
  ⟨0x10e, "LATIN", "CAPITAL LETTER D WITH CARON, SMALL LETTER D WITH CARON"⟩,
  ⟨0x110, "LATIN", "CAPITAL LETTER D WITH STROKE, SMALL LETTER D WITH STROKE"⟩,
  ⟨0x112, "LATIN", "CAPITAL LETTER E WITH MACRON, SMALL LETTER E WITH MACRON"⟩,
  ⟨0x114, "LATIN", "CAPITAL LETTER E WITH BREVE, SMALL LETTER E WITH BREVE"⟩,
  ⟨0x116, "LATIN", "CAPITAL LETTER E WITH DOT ABOVE, SMALL LETTER E WITH DOT ABOVE"⟩,
  ⟨0x118, "LATIN", "CAPITAL LETTER E WITH OGONEK, SMALL LETTER E WITH OGONEK"⟩,
  ⟨0x11a, "LATIN", "CAPITAL LETTER E WITH CARON, SMALL LETTER E WITH CARON"⟩,
  ⟨0x11c, "LATIN", "CAPITAL LETTER G WITH CIRCUMFLEX, SMALL LETTER G WITH CIRCUMFLEX"⟩,
  ⟨0x11e, "LATIN", "CAPITAL LETTER G WITH BREVE, SMALL LETTER G WITH BREVE"⟩,
  ⟨0x120, "LATIN", "CAPITAL LETTER G WITH DOT ABOVE, SMALL LETTER G WITH DOT ABOVE"⟩,
  ⟨0x122, "LATIN", "CAPITAL LETTER G WITH CEDILLA, SMALL LETTER G WITH CEDILLA"⟩,
  ⟨0x124, "LATIN", "CAPITAL LETTER H WITH CIRCUMFLEX, SMALL LETTER H WITH CIRCUMFLEX"⟩,
  ⟨0x126, "LATIN", "CAPITAL LETTER H WITH STROKE, SMALL LETTER H WITH STROKE"⟩,
  ⟨0x128, "LATIN", "CAPITAL LETTER I WITH TILDE, SMALL LETTER I WITH TILDE"⟩,
  ⟨0x12a, "LATIN", "CAPITAL LETTER I WITH MACRON, SMALL LETTER I WITH MACRON"⟩,
  ⟨0x12c, "LATIN", "CAPITAL LETTER I WITH BREVE, SMALL LETTER I WITH BREVE"⟩,
  ⟨0x12e, "LATIN", "CAPITAL LETTER I WITH OGONEK, SMALL LETTER I WITH OGONEK"⟩,
  ⟨0x130, "LATIN", "CAPITAL LETTER I WITH DOT ABOVE, SMALL LETTER DOTLESS I"⟩,
  ⟨0x132, "LATIN", "CAPITAL LIGATURE IJ, SMALL LIGATURE IJ, CAPITAL LETTER J WITH CIRCUMFLEX"⟩,
  ⟨0x135, "LATIN", "SMALL LETTER J WITH CIRCUMFLEX, CAPITAL LETTER K WITH CEDILLA"⟩,
  ⟨0x137, "LATIN", "SMALL LETTER K WITH CEDILLA, SMALL LETTER KRA, CAPITAL LETTER L WITH ACUTE"⟩,
  ⟨0x13a, "LATIN", "SMALL LETTER L WITH ACUTE, CAPITAL LETTER L WITH CEDILLA"⟩,
  ⟨0x13c, "LATIN", "SMALL LETTER L WITH CEDILLA, CAPITAL LETTER L WITH CARON"⟩,
  ⟨0x13e, "LATIN", "SMALL LETTER L WITH CARON, CAPITAL LETTER L WITH MIDDLE DOT"⟩,
  ⟨0x140, "LATIN", "SMALL LETTER L WITH MIDDLE DOT, CAPITAL LETTER L WITH STROKE"⟩,
  ⟨0x142, "LATIN", "SMALL LETTER L WITH STROKE, CAPITAL LETTER N WITH ACUTE"⟩,
  ⟨0x144, "LATIN", "SMALL LETTER N WITH ACUTE, CAPITAL LETTER N WITH CEDILLA"⟩,
  ⟨0x146, "LATIN", "SMALL LETTER N WITH CEDILLA, CAPITAL LETTER N WITH CARON"⟩,
  ⟨0x148, "LATIN SMALL LETTER N", "WITH CARON, PRECEDED BY APOSTROPHE"⟩,
  ⟨0x14a, "LATIN", "CAPITAL LETTER ENG, SMALL LETTER ENG, CAPITAL LETTER O WITH MACRON"⟩,
  ⟨0x14d, "LATIN", "SMALL LETTER O WITH MACRON, CAPITAL LETTER O WITH BREVE"⟩,
  ⟨0x14f, "LATIN", "SMALL LETTER O WITH BREVE, CAPITAL LETTER O WITH DOUBLE ACUTE"⟩,
  ⟨0x151, "LATIN", "SMALL LETTER O WITH DOUBLE ACUTE, CAPITAL LIGATURE OE"⟩,
  ⟨0x153, "LATIN", "SMALL LIGATURE OE, CAPITAL LETTER R WITH ACUTE, SMALL LETTER R WITH ACUTE"⟩,
  ⟨0x156, "LATIN", "CAPITAL LETTER R WITH CEDILLA, SMALL LETTER R WITH CEDILLA"⟩,
  ⟨0x158, "LATIN", "CAPITAL LETTER R WITH CARON, SMALL LETTER R WITH CARON"⟩,
  ⟨0x15a, "LATIN", "CAPITAL LETTER S WITH ACUTE, SMALL LETTER S WITH ACUTE"⟩,
  ⟨0x15c, "LATIN", "CAPITAL LETTER S WITH CIRCUMFLEX, SMALL LETTER S WITH CIRCUMFLEX"⟩,
  ⟨0x15e, "LATIN", "CAPITAL LETTER S WITH CEDILLA, SMALL LETTER S WITH CEDILLA"⟩,
  ⟨0x160, "LATIN", "CAPITAL LETTER S WITH CARON, SMALL LETTER S WITH CARON"⟩,
  ⟨0x162, "LATIN", "CAPITAL LETTER T WITH CEDILLA, SMALL LETTER T WITH CEDILLA"⟩,
  ⟨0x164, "LATIN", "CAPITAL LETTER T WITH CARON, SMALL LETTER T WITH CARON"⟩,
  ⟨0x166, "LATIN", "CAPITAL LETTER T WITH STROKE, SMALL LETTER T WITH STROKE"⟩,
  ⟨0x168, "LATIN", "CAPITAL LETTER U WITH TILDE, SMALL LETTER U WITH TILDE"⟩,
  ⟨0x16a, "LATIN", "CAPITAL LETTER U WITH MACRON, SMALL LETTER U WITH MACRON"⟩,
  ⟨0x16c, "LATIN", "CAPITAL LETTER U WITH BREVE, SMALL LETTER U WITH BREVE"⟩,
  ⟨0x16e, "LATIN", "CAPITAL LETTER U WITH RING ABOVE, SMALL LETTER U WITH RING ABOVE"⟩,
  ⟨0x170, "LATIN", "CAPITAL LETTER U WITH DOUBLE ACUTE, SMALL LETTER U WITH DOUBLE ACUTE"⟩,
  ⟨0x172, "LATIN", "CAPITAL LETTER U WITH OGONEK, SMALL LETTER U WITH OGONEK"⟩,
  ⟨0x174, "LATIN", "CAPITAL LETTER W WITH CIRCUMFLEX, SMALL LETTER W WITH CIRCUMFLEX"⟩,
  ⟨0x176, "LATIN", "CAPITAL LETTER Y WITH CIRCUMFLEX, SMALL LETTER Y WITH CIRCUMFLEX"⟩,
  ⟨0x178, "LATIN CAPITAL LETTER", "Y WITH DIAERESIS, Z WITH ACUTE"⟩,
  ⟨0x17a, "LATIN", "SMALL LETTER Z WITH ACUTE, CAPITAL LETTER Z WITH DOT ABOVE"⟩,
  ⟨0x17c, "LATIN", "SMALL LETTER Z WITH DOT ABOVE, CAPITAL LETTER Z WITH CARON"⟩,
  ⟨0x17e, "LATIN SMALL LETTER", "Z WITH CARON, LONG S"⟩,
  ⟨0x370, "GREEK", "CAPITAL LETTER HETA, SMALL LETTER HETA, CAPITAL LETTER ARCHAIC SAMPI"⟩,
  ⟨0x373, "GREEK", "SMALL LETTER ARCHAIC SAMPI, NUMERAL SIGN, LOWER NUMERAL SIGN"⟩,
  ⟨0x376, "GREEK", "CAPITAL LETTER PAMPHYLIAN DIGAMMA, SMALL LETTER PAMPHYLIAN DIGAMMA"⟩,
  ⟨0x37a, "GREEK", "YPOGEGRAMMENI, SMALL REVERSED LUNATE SIGMA SYMBOL"⟩,
  ⟨0x37c, "GREEK SMALL", "DOTTED LUNATE SIGMA SYMBOL, REVERSED DOTTED LUNATE SIGMA SYMBOL"⟩,
  ⟨0x37e, "GREEK", "QUESTION MARK, CAPITAL LETTER YOT"⟩,
  ⟨0x384, "GREEK", "TONOS, DIALYTIKA TONOS, CAPITAL LETTER ALPHA WITH TONOS, ANO TELEIA"⟩,
  ⟨0x388, "GREEK CAPITAL LETTER", "EPSILON WITH TONOS, ETA WITH TONOS, IOTA WITH TONOS"⟩,
  ⟨0x38c, "GREEK", "CAPITAL LETTER OMICRON WITH TONOS"⟩,
  ⟨0x38e, "GREEK CAPITAL LETTER", "UPSILON WITH TONOS, OMEGA WITH TONOS"⟩,
  ⟨0x390, "GREEK", "SMALL LETTER IOTA WITH DIALYTIKA AND TONOS"⟩,
  ⟨0x391, "GREEK CAPITAL LETTER", "ALPHA, BETA, GAMMA, DELTA, EPSILON, ZETA"⟩,
  ⟨0x397, "GREEK CAPITAL LETTER", "ETA, THETA, IOTA, KAPPA, LAMDA, MU, NU, XI, OMICRON, PI, RHO"⟩,
  ⟨0x3a3, "GREEK CAPITAL LETTER", "SIGMA, TAU, UPSILON, PHI"⟩,
  ⟨0x3a7, "GREEK CAPITAL LETTER", "CHI, PSI, OMEGA, IOTA WITH DIALYTIKA, UPSILON WITH DIALYTIKA"⟩,
  ⟨0x3ac, "GREEK SMALL LETTER", "ALPHA WITH TONOS, EPSILON WITH TONOS, ETA WITH TONOS"⟩,
  ⟨0x3af, "GREEK SMALL LETTER", "IOTA WITH TONOS, UPSILON WITH DIALYTIKA AND TONOS"⟩,
  ⟨0x3b1, "GREEK SMALL LETTER", "ALPHA, BETA, GAMMA, DELTA, EPSILON, ZETA, ETA, THETA"⟩,
  ⟨0x3b9, "GREEK SMALL LETTER", "IOTA, KAPPA, LAMDA, MU, NU, XI, OMICRON, PI, RHO, FINAL SIGMA"⟩,
  ⟨0x3c3, "GREEK SMALL LETTER", "SIGMA, TAU, UPSILON, PHI, CHI, PSI, OMEGA, IOTA WITH DIALYTIKA"⟩,
  ⟨0x3cb, "GREEK SMALL LETTER", "UPSILON WITH DIALYTIKA, OMICRON WITH TONOS, UPSILON WITH TONOS"⟩,
  ⟨0x3ce, "GREEK", "SMALL LETTER OMEGA WITH TONOS, CAPITAL KAI SYMBOL, BETA SYMBOL"⟩,
  ⟨0x3d1, "GREEK", "THETA SYMBOL, UPSILON WITH HOOK SYMBOL, UPSILON WITH ACUTE AND HOOK SYMBOL"⟩,
  ⟨0x3d4, "GREEK", "UPSILON WITH DIAERESIS AND HOOK SYMBOL, PHI SYMBOL"⟩,
  ⟨0x3d6, "GREEK", "PI SYMBOL, KAI SYMBOL, LETTER ARCHAIC KOPPA, SMALL LETTER ARCHAIC KOPPA"⟩,
  ⟨0x3da, "GREEK", "LETTER STIGMA, SMALL LETTER STIGMA, LETTER DIGAMMA, SMALL LETTER DIGAMMA"⟩,
  ⟨0x3de, "GREEK", "LETTER KOPPA, SMALL LETTER KOPPA, LETTER SAMPI, SMALL LETTER SAMPI"⟩,
  ⟨0x3e2, "COPTIC", "CAPITAL LETTER SHEI, SMALL LETTER SHEI"⟩,
  ⟨0x3e4, "COPTIC", "CAPITAL LETTER FEI, SMALL LETTER FEI, CAPITAL LETTER KHEI"⟩,
  ⟨0x3e7, "COPTIC", "SMALL LETTER KHEI, CAPITAL LETTER HORI, SMALL LETTER HORI"⟩,
  ⟨0x3ea, "COPTIC", "CAPITAL LETTER GANGIA, SMALL LETTER GANGIA, CAPITAL LETTER SHIMA"⟩,
  ⟨0x3ed, "COPTIC", "SMALL LETTER SHIMA, CAPITAL LETTER DEI, SMALL LETTER DEI"⟩,
  ⟨0x3f0, "GREEK", "KAPPA SYMBOL, RHO SYMBOL, LUNATE SIGMA SYMBOL"⟩,
  ⟨0x3f3, "GREEK", "LETTER YOT, CAPITAL THETA SYMBOL, LUNATE EPSILON SYMBOL"⟩,
  ⟨0x3f6, "GREEK", "REVERSED LUNATE EPSILON SYMBOL, CAPITAL LETTER SHO, SMALL LETTER SHO"⟩,
  ⟨0x3f9, "GREEK", "CAPITAL LUNATE SIGMA SYMBOL, CAPITAL LETTER SAN, SMALL LETTER SAN"⟩,
  ⟨0x3fc, "GREEK", "RHO WITH STROKE SYMBOL, CAPITAL REVERSED LUNATE SIGMA SYMBOL"⟩,
  ⟨0x3fe, "GREEK CAPITAL", "DOTTED LUNATE SIGMA SYMBOL, REVERSED DOTTED LUNATE SIGMA SYMBOL"⟩,
  ⟨0x400, "CYRILLIC", "CAPITAL LETTER IE WITH GRAVE"⟩,
  ⟨0x401, "CYRILLIC CAPITAL LETTER", "IO, DJE, GJE, UKRAINIAN IE, DZE, BYELORUSSIAN-UKRAINIAN I"⟩,
  ⟨0x407, "CYRILLIC CAPITAL LETTER", "YI, JE, LJE, NJE, TSHE, KJE, I WITH GRAVE, SHORT U"⟩,
  ⟨0x40f, "CYRILLIC CAPITAL LETTER", "DZHE, A, BE, VE, GHE, DE, IE, ZHE, ZE, I, SHORT I"⟩,
  ⟨0x41a, "CYRILLIC CAPITAL LETTER", "KA, EL, EM, EN, O, PE, ER, ES, TE, U, EF, HA, TSE"⟩,
  ⟨0x427, "CYRILLIC CAPITAL LETTER", "CHE, SHA, SHCHA, HARD SIGN, YERU, SOFT SIGN, E, YU, YA"⟩,
  ⟨0x430, "CYRILLIC SMALL LETTER", "A, BE, VE, GHE, DE, IE, ZHE, ZE, I, SHORT I"⟩,
  ⟨0x43a, "CYRILLIC SMALL LETTER", "KA, EL, EM, EN, O, PE, ER, ES, TE, U, EF, HA, TSE, CHE, SHA"⟩,
  ⟨0x449, "CYRILLIC SMALL LETTER", "SHCHA, HARD SIGN, YERU, SOFT SIGN, E, YU, YA, IE WITH GRAVE"⟩,
  ⟨0x451, "CYRILLIC SMALL LETTER", "IO, DJE, GJE, UKRAINIAN IE, DZE, BYELORUSSIAN-UKRAINIAN I"⟩,
  ⟨0x457, "CYRILLIC SMALL LETTER", "YI, JE, LJE, NJE, TSHE, KJE, I WITH GRAVE, SHORT U, DZHE"⟩,
  ⟨0x2000, "", "EN QUAD, EM QUAD, EN SPACE, EM SPACE, THREE-PER-EM SPACE, FOUR-PER-EM SPACE"⟩,
  ⟨0x2006, "", "SIX-PER-EM SPACE, FIGURE SPACE, PUNCTUATION SPACE, THIN SPACE, HAIR SPACE"⟩,
  ⟨0x200b, "ZERO WIDTH", "SPACE, NON-JOINER, JOINER"⟩,
  ⟨0x200e, "", "LEFT-TO-RIGHT MARK, RIGHT-TO-LEFT MARK, HYPHEN, NON-BREAKING HYPHEN"⟩,
  ⟨0x2012, "", "FIGURE DASH, EN DASH, EM DASH, HORIZONTAL BAR, DOUBLE VERTICAL LINE"⟩,
  ⟨0x2017, "", "DOUBLE LOW LINE, LEFT SINGLE QUOTATION MARK, RIGHT SINGLE QUOTATION MARK"⟩,
  ⟨0x201a, "SINGLE", "LOW-9 QUOTATION MARK, HIGH-REVERSED-9 QUOTATION MARK"⟩,
  ⟨0x201c, "", "LEFT DOUBLE QUOTATION MARK, RIGHT DOUBLE QUOTATION MARK"⟩,
  ⟨0x201e, "", "DOUBLE LOW-9 QUOTATION MARK, DOUBLE HIGH-REVERSED-9 QUOTATION MARK, DAGGER"⟩,
  ⟨0x2021, "", "DOUBLE DAGGER, BULLET, TRIANGULAR BULLET, ONE DOT LEADER, TWO DOT LEADER"⟩,
  ⟨0x2026, "", "HORIZONTAL ELLIPSIS, HYPHENATION POINT, LINE SEPARATOR, PARAGRAPH SEPARATOR"⟩,
  ⟨0x202a, "", "LEFT-TO-RIGHT EMBEDDING, RIGHT-TO-LEFT EMBEDDING, POP DIRECTIONAL FORMATTING"⟩,
  ⟨0x202d, "", "LEFT-TO-RIGHT OVERRIDE, RIGHT-TO-LEFT OVERRIDE, NARROW NO-BREAK SPACE"⟩,
  ⟨0x2030, "", "PER MILLE SIGN, PER TEN THOUSAND SIGN, PRIME, DOUBLE PRIME, TRIPLE PRIME"⟩,
  ⟨0x2035, "", "REVERSED PRIME, REVERSED DOUBLE PRIME, REVERSED TRIPLE PRIME, CARET"⟩,
  ⟨0x2039, "SINGLE", "LEFT-POINTING ANGLE QUOTATION MARK, RIGHT-POINTING ANGLE QUOTATION MARK"⟩,
  ⟨0x203b, "", "REFERENCE MARK, DOUBLE EXCLAMATION MARK, INTERROBANG, OVERLINE"⟩,
  ⟨0x203f, "", "UNDERTIE, CHARACTER TIE, CARET INSERTION POINT, ASTERISM, HYPHEN BULLET"⟩,
  ⟨0x2044, "", "FRACTION SLASH, LEFT SQUARE BRACKET WITH QUILL, RIGHT SQUARE BRACKET WITH QUILL"⟩,
  ⟨0x2047, "", "DOUBLE QUESTION MARK, QUESTION EXCLAMATION MARK, EXCLAMATION QUESTION MARK"⟩,
  ⟨0x204a, "", "TIRONIAN SIGN ET, REVERSED PILCROW SIGN, BLACK LEFTWARDS BULLET"⟩,
  ⟨0x204d, "", "BLACK RIGHTWARDS BULLET, LOW ASTERISK, REVERSED SEMICOLON"⟩,
  ⟨0x2050, "", "CLOSE UP, TWO ASTERISKS ALIGNED VERTICALLY, COMMERCIAL MINUS SIGN"⟩,
  ⟨0x2053, "", "SWUNG DASH, INVERTED UNDERTIE, FLOWER PUNCTUATION MARK, THREE DOT PUNCTUATION"⟩,
  ⟨0x2057, "", "QUADRUPLE PRIME, FOUR DOT PUNCTUATION, FIVE DOT PUNCTUATION"⟩,
  ⟨0x205a, "", "TWO DOT PUNCTUATION, FOUR DOT MARK, DOTTED CROSS, TRICOLON, VERTICAL FOUR DOTS"⟩,
  ⟨0x205f, "", "MEDIUM MATHEMATICAL SPACE, WORD JOINER, FUNCTION APPLICATION"⟩,
  ⟨0x2062, "INVISIBLE", "TIMES, SEPARATOR, PLUS"⟩,
  ⟨0x2066, "", "LEFT-TO-RIGHT ISOLATE, RIGHT-TO-LEFT ISOLATE"⟩,
  ⟨0x2068, "", "FIRST STRONG ISOLATE, POP DIRECTIONAL ISOLATE, INHIBIT SYMMETRIC SWAPPING"⟩,
  ⟨0x206b, "", "ACTIVATE SYMMETRIC SWAPPING, INHIBIT ARABIC FORM SHAPING"⟩,
  ⟨0x206d, "", "ACTIVATE ARABIC FORM SHAPING, NATIONAL DIGIT SHAPES, NOMINAL DIGIT SHAPES"⟩,
  ⟨0x20a0, "", "EURO-CURRENCY SIGN, COLON SIGN, CRUZEIRO SIGN, FRENCH FRANC SIGN"⟩,
  ⟨0x20a4, "", "LIRA SIGN, MILL SIGN, NAIRA SIGN, PESETA SIGN, RUPEE SIGN, WON SIGN"⟩,
  ⟨0x20aa, "", "NEW SHEQEL SIGN, DONG SIGN, EURO SIGN, KIP SIGN, TUGRIK SIGN, DRACHMA SIGN"⟩,
  ⟨0x20b0, "", "GERMAN PENNY SIGN, PESO SIGN, GUARANI SIGN, AUSTRAL SIGN, HRYVNIA SIGN"⟩,
  ⟨0x20b5, "", "CEDI SIGN, LIVRE TOURNOIS SIGN, SPESMILO SIGN, TENGE SIGN, INDIAN RUPEE SIGN"⟩,
  ⟨0x20ba, "TURKISH", "LIRA SIGN"⟩,
  ⟨0x20bb, "", "NORDIC MARK SIGN, MANAT SIGN, RUBLE SIGN, LARI SIGN, BITCOIN SIGN, SOM SIGN"⟩,
  ⟨0x2100, "", "ACCOUNT OF, ADDRESSED TO THE SUBJECT, DOUBLE-STRUCK CAPITAL C"⟩,
  ⟨0x2103, "", "DEGREE CELSIUS, CENTRE LINE SYMBOL, CARE OF, CADA UNA, EULER CONSTANT, SCRUPLE"⟩,
  ⟨0x2109, "", "DEGREE FAHRENHEIT, SCRIPT SMALL G, SCRIPT CAPITAL H, BLACK-LETTER CAPITAL H"⟩,
  ⟨0x210d, "", "DOUBLE-STRUCK CAPITAL H, PLANCK CONSTANT, PLANCK CONSTANT OVER TWO PI"⟩,
  ⟨0x2110, "", "SCRIPT CAPITAL I, BLACK-LETTER CAPITAL I, SCRIPT CAPITAL L, SCRIPT SMALL L"⟩,
  ⟨0x2114, "", "L B BAR SYMBOL, DOUBLE-STRUCK CAPITAL N, NUMERO SIGN, SOUND RECORDING COPYRIGHT"⟩,
  ⟨0x2118, "", "SCRIPT CAPITAL P, DOUBLE-STRUCK CAPITAL P, DOUBLE-STRUCK CAPITAL Q"⟩,
  ⟨0x211b, "", "SCRIPT CAPITAL R, BLACK-LETTER CAPITAL R, DOUBLE-STRUCK CAPITAL R"⟩,
  ⟨0x211e, "", "PRESCRIPTION TAKE, RESPONSE, SERVICE MARK, TELEPHONE SIGN, TRADE MARK SIGN"⟩,
  ⟨0x2123, "", "VERSICLE, DOUBLE-STRUCK CAPITAL Z, OUNCE SIGN, OHM SIGN, INVERTED OHM SIGN"⟩,
  ⟨0x2128, "", "BLACK-LETTER CAPITAL Z, TURNED GREEK SMALL LETTER IOTA, KELVIN SIGN"⟩,
  ⟨0x212b, "", "ANGSTROM SIGN, SCRIPT CAPITAL B, BLACK-LETTER CAPITAL C, ESTIMATED SYMBOL"⟩,
  ⟨0x212f, "", "SCRIPT SMALL E, SCRIPT CAPITAL E, SCRIPT CAPITAL F, TURNED CAPITAL F"⟩,
  ⟨0x2133, "", "SCRIPT CAPITAL M, SCRIPT SMALL O, ALEF SYMBOL, BET SYMBOL, GIMEL SYMBOL"⟩,
  ⟨0x2138, "", "DALET SYMBOL, INFORMATION SOURCE, ROTATED CAPITAL Q, FACSIMILE SIGN"⟩,
  ⟨0x213c, "DOUBLE-STRUCK", "SMALL PI, SMALL GAMMA, CAPITAL GAMMA, CAPITAL PI, N-ARY SUMMATION"⟩,
  ⟨0x2141, "TURNED SANS-SERIF CAPITAL", "G, L"⟩,
  ⟨0x2143, "", "REVERSED SANS-SERIF CAPITAL L, TURNED SANS-SERIF CAPITAL Y"⟩,
  ⟨0x2145, "DOUBLE-STRUCK ITALIC", "CAPITAL D, SMALL D, SMALL E, SMALL I, SMALL J"⟩,
  ⟨0x214a, "", "PROPERTY LINE, TURNED AMPERSAND, PER SIGN, AKTIESELSKAB, TURNED SMALL F"⟩,
  ⟨0x214f, "SYMBOL", "FOR SAMARITAN SOURCE"⟩,
  ⟨0x2190, "", "LEFTWARDS ARROW, UPWARDS ARROW, RIGHTWARDS ARROW, DOWNWARDS ARROW"⟩,
  ⟨0x2194, "", "LEFT RIGHT ARROW, UP DOWN ARROW, NORTH WEST ARROW, NORTH EAST ARROW"⟩,
  ⟨0x2198, "SOUTH", "EAST ARROW, WEST ARROW"⟩,
  ⟨0x219a, "", "LEFTWARDS ARROW WITH STROKE, RIGHTWARDS ARROW WITH STROKE, LEFTWARDS WAVE ARROW"⟩,
  ⟨0x219d, "", "RIGHTWARDS WAVE ARROW, LEFTWARDS TWO HEADED ARROW, UPWARDS TWO HEADED ARROW"⟩,
  ⟨0x21a0, "", "RIGHTWARDS TWO HEADED ARROW, DOWNWARDS TWO HEADED ARROW"⟩,
  ⟨0x21a2, "", "LEFTWARDS ARROW WITH TAIL, RIGHTWARDS ARROW WITH TAIL, LEFTWARDS ARROW FROM BAR"⟩,
  ⟨0x21a5, "", "UPWARDS ARROW FROM BAR, RIGHTWARDS ARROW FROM BAR, DOWNWARDS ARROW FROM BAR"⟩,
  ⟨0x21a8, "", "UP DOWN ARROW WITH BASE, LEFTWARDS ARROW WITH HOOK, RIGHTWARDS ARROW WITH HOOK"⟩,
  ⟨0x21ab, "", "LEFTWARDS ARROW WITH LOOP, RIGHTWARDS ARROW WITH LOOP"⟩,
  ⟨0x21ad, "", "LEFT RIGHT WAVE ARROW, LEFT RIGHT ARROW WITH STROKE, DOWNWARDS ZIGZAG ARROW"⟩,
  ⟨0x21b0, "UPWARDS ARROW WITH TIP", "LEFTWARDS, RIGHTWARDS"⟩,
  ⟨0x21b2, "DOWNWARDS ARROW WITH TIP", "LEFTWARDS, RIGHTWARDS"⟩,
  ⟨0x21b4, "", "RIGHTWARDS ARROW WITH CORNER DOWNWARDS, DOWNWARDS ARROW WITH CORNER LEFTWARDS"⟩,
  ⟨0x21b6, "", "ANTICLOCKWISE TOP SEMICIRCLE ARROW, CLOCKWISE TOP SEMICIRCLE ARROW"⟩,
  ⟨0x21b8, "NORTH", "WEST ARROW TO LONG BAR"⟩,
  ⟨0x21b9, "LEFTWARDS", "ARROW TO BAR OVER RIGHTWARDS ARROW TO BAR"⟩,
  ⟨0x21ba, "", "ANTICLOCKWISE OPEN CIRCLE ARROW, CLOCKWISE OPEN CIRCLE ARROW"⟩,
  ⟨0x21bc, "LEFTWARDS HARPOON WITH BARB", "UPWARDS, DOWNWARDS"⟩,
  ⟨0x21be, "UPWARDS HARPOON WITH BARB", "RIGHTWARDS, LEFTWARDS"⟩,
  ⟨0x21c0, "RIGHTWARDS HARPOON WITH BARB", "UPWARDS, DOWNWARDS"⟩,
  ⟨0x21c2, "DOWNWARDS HARPOON WITH BARB", "RIGHTWARDS, LEFTWARDS"⟩,
  ⟨0x21c4, "RIGHTWARDS", "ARROW OVER LEFTWARDS ARROW"⟩,
  ⟨0x21c5, "UPWARDS", "ARROW LEFTWARDS OF DOWNWARDS ARROW"⟩,
  ⟨0x21c6, "LEFTWARDS", "ARROW OVER RIGHTWARDS ARROW, PAIRED ARROWS"⟩,
  ⟨0x21c8, "", "UPWARDS PAIRED ARROWS, RIGHTWARDS PAIRED ARROWS, DOWNWARDS PAIRED ARROWS"⟩,
  ⟨0x21cb, "LEFTWARDS", "HARPOON OVER RIGHTWARDS HARPOON"⟩,
  ⟨0x21cc, "", "RIGHTWARDS HARPOON OVER LEFTWARDS HARPOON, LEFTWARDS DOUBLE ARROW WITH STROKE"⟩,
  ⟨0x21ce, "", "LEFT RIGHT DOUBLE ARROW WITH STROKE, RIGHTWARDS DOUBLE ARROW WITH STROKE"⟩,
  ⟨0x21d0, "", "LEFTWARDS DOUBLE ARROW, UPWARDS DOUBLE ARROW, RIGHTWARDS DOUBLE ARROW"⟩,
  ⟨0x21d3, "", "DOWNWARDS DOUBLE ARROW, LEFT RIGHT DOUBLE ARROW, UP DOWN DOUBLE ARROW"⟩,
  ⟨0x21d6, "NORTH", "WEST DOUBLE ARROW, EAST DOUBLE ARROW"⟩,
  ⟨0x21d8, "SOUTH", "EAST DOUBLE ARROW, WEST DOUBLE ARROW"⟩,
  ⟨0x21da, "", "LEFTWARDS TRIPLE ARROW, RIGHTWARDS TRIPLE ARROW, LEFTWARDS SQUIGGLE ARROW"⟩,
  ⟨0x21dd, "", "RIGHTWARDS SQUIGGLE ARROW, UPWARDS ARROW WITH DOUBLE STROKE"⟩,
  ⟨0x21df, "", "DOWNWARDS ARROW WITH DOUBLE STROKE, LEFTWARDS DASHED ARROW"⟩,
  ⟨0x21e1, "", "UPWARDS DASHED ARROW, RIGHTWARDS DASHED ARROW, DOWNWARDS DASHED ARROW"⟩,
  ⟨0x21e4, "", "LEFTWARDS ARROW TO BAR, RIGHTWARDS ARROW TO BAR, LEFTWARDS WHITE ARROW"⟩,
  ⟨0x21e7, "", "UPWARDS WHITE ARROW, RIGHTWARDS WHITE ARROW, DOWNWARDS WHITE ARROW"⟩,
  ⟨0x21ea, "UPWARDS WHITE ARROW", "FROM BAR, ON PEDESTAL, ON PEDESTAL WITH HORIZONTAL BAR"⟩,
  ⟨0x21ed, "UPWARDS WHITE", "ARROW ON PEDESTAL WITH VERTICAL BAR, DOUBLE ARROW"⟩,
  ⟨0x21ef, "", "UPWARDS WHITE DOUBLE ARROW ON PEDESTAL, RIGHTWARDS WHITE ARROW FROM WALL"⟩,
  ⟨0x21f1, "", "NORTH WEST ARROW TO CORNER, SOUTH EAST ARROW TO CORNER, UP DOWN WHITE ARROW"⟩,
  ⟨0x21f4, "", "RIGHT ARROW WITH SMALL CIRCLE, DOWNWARDS ARROW LEFTWARDS OF UPWARDS ARROW"⟩,
  ⟨0x21f6, "", "THREE RIGHTWARDS ARROWS, LEFTWARDS ARROW WITH VERTICAL STROKE"⟩,
  ⟨0x21f8, "", "RIGHTWARDS ARROW WITH VERTICAL STROKE, LEFT RIGHT ARROW WITH VERTICAL STROKE"⟩,
  ⟨0x21fa, "LEFTWARDS", "ARROW WITH DOUBLE VERTICAL STROKE"⟩,
  ⟨0x21fb, "RIGHTWARDS", "ARROW WITH DOUBLE VERTICAL STROKE"⟩,
  ⟨0x21fc, "", "LEFT RIGHT ARROW WITH DOUBLE VERTICAL STROKE, LEFTWARDS OPEN-HEADED ARROW"⟩,
  ⟨0x21fe, "", "RIGHTWARDS OPEN-HEADED ARROW, LEFT RIGHT OPEN-HEADED ARROW"⟩,
  ⟨0x2200, "", "FOR ALL, COMPLEMENT, PARTIAL DIFFERENTIAL, THERE EXISTS, THERE DOES NOT EXIST"⟩,
  ⟨0x2205, "", "EMPTY SET, INCREMENT, NABLA, ELEMENT OF, NOT AN ELEMENT OF, SMALL ELEMENT OF"⟩,
  ⟨0x220b, "", "CONTAINS AS MEMBER, DOES NOT CONTAIN AS MEMBER, SMALL CONTAINS AS MEMBER"⟩,
  ⟨0x220e, "", "END OF PROOF, N-ARY PRODUCT, N-ARY COPRODUCT, N-ARY SUMMATION, MINUS SIGN"⟩,
  ⟨0x2213, "", "MINUS-OR-PLUS SIGN, DOT PLUS, DIVISION SLASH, SET MINUS, ASTERISK OPERATOR"⟩,
  ⟨0x2218, "", "RING OPERATOR, BULLET OPERATOR, SQUARE ROOT, CUBE ROOT, FOURTH ROOT"⟩,
  ⟨0x221d, "", "PROPORTIONAL TO, INFINITY, RIGHT ANGLE, ANGLE, MEASURED ANGLE, SPHERICAL ANGLE"⟩,
  ⟨0x2223, "", "DIVIDES, DOES NOT DIVIDE, PARALLEL TO, NOT PARALLEL TO, LOGICAL AND"⟩,
  ⟨0x2228, "", "LOGICAL OR, INTERSECTION, UNION, INTEGRAL, DOUBLE INTEGRAL, TRIPLE INTEGRAL"⟩,
  ⟨0x222e, "", "CONTOUR INTEGRAL, SURFACE INTEGRAL, VOLUME INTEGRAL, CLOCKWISE INTEGRAL"⟩,
  ⟨0x2232, "", "CLOCKWISE CONTOUR INTEGRAL, ANTICLOCKWISE CONTOUR INTEGRAL, THEREFORE"⟩,
  ⟨0x2235, "", "BECAUSE, RATIO, PROPORTION, DOT MINUS, EXCESS, GEOMETRIC PROPORTION, HOMOTHETIC"⟩,
  ⟨0x223c, "", "TILDE OPERATOR, REVERSED TILDE, INVERTED LAZY S, SINE WAVE, WREATH PRODUCT"⟩,
  ⟨0x2241, "", "NOT TILDE, MINUS TILDE, ASYMPTOTICALLY EQUAL TO, NOT ASYMPTOTICALLY EQUAL TO"⟩,
  ⟨0x2245, "APPROXIMATELY", "EQUAL TO, BUT NOT ACTUALLY EQUAL TO"⟩,
  ⟨0x2247, "NEITHER", "APPROXIMATELY NOR ACTUALLY EQUAL TO"⟩,
  ⟨0x2248, "", "ALMOST EQUAL TO, NOT ALMOST EQUAL TO, ALMOST EQUAL OR EQUAL TO"⟩,
  ⟨0x224b, "", "TRIPLE TILDE, ALL EQUAL TO, EQUIVALENT TO, GEOMETRICALLY EQUIVALENT TO"⟩,
  ⟨0x224f, "", "DIFFERENCE BETWEEN, APPROACHES THE LIMIT, GEOMETRICALLY EQUAL TO"⟩,
  ⟨0x2252, "", "APPROXIMATELY EQUAL TO OR THE IMAGE OF, IMAGE OF OR APPROXIMATELY EQUAL TO"⟩,
  ⟨0x2254, "", "COLON EQUALS, EQUALS COLON, RING IN EQUAL TO, RING EQUAL TO, CORRESPONDS TO"⟩,
  ⟨0x2259, "", "ESTIMATES, EQUIANGULAR TO, STAR EQUALS, DELTA EQUAL TO, EQUAL TO BY DEFINITION"⟩,
  ⟨0x225e, "", "MEASURED BY, QUESTIONED EQUAL TO, NOT EQUAL TO, IDENTICAL TO, NOT IDENTICAL TO"⟩,
  ⟨0x2263, "", "STRICTLY EQUIVALENT TO, LESS-THAN OR EQUAL TO, GREATER-THAN OR EQUAL TO"⟩,
  ⟨0x2266, "", "LESS-THAN OVER EQUAL TO, GREATER-THAN OVER EQUAL TO, LESS-THAN BUT NOT EQUAL TO"⟩,
  ⟨0x2269, "", "GREATER-THAN BUT NOT EQUAL TO, MUCH LESS-THAN, MUCH GREATER-THAN, BETWEEN"⟩,
  ⟨0x226d, "NOT", "EQUIVALENT TO, LESS-THAN, GREATER-THAN"⟩,
  ⟨0x2270, "NEITHER", "LESS-THAN NOR EQUAL TO, GREATER-THAN NOR EQUAL TO"⟩,
  ⟨0x2272, "", "LESS-THAN OR EQUIVALENT TO, GREATER-THAN OR EQUIVALENT TO"⟩,
  ⟨0x2274, "NEITHER", "LESS-THAN NOR EQUIVALENT TO, GREATER-THAN NOR EQUIVALENT TO"⟩,
  ⟨0x2276, "", "LESS-THAN OR GREATER-THAN, GREATER-THAN OR LESS-THAN"⟩,
  ⟨0x2278, "NEITHER", "LESS-THAN NOR GREATER-THAN, GREATER-THAN NOR LESS-THAN"⟩,
  ⟨0x227a, "", "PRECEDES, SUCCEEDS, PRECEDES OR EQUAL TO"⟩,
  ⟨0x227d, "", "SUCCEEDS OR EQUAL TO, PRECEDES OR EQUIVALENT TO, SUCCEEDS OR EQUIVALENT TO"⟩,
  ⟨0x2280, "", "DOES NOT PRECEDE, DOES NOT SUCCEED, SUBSET OF, SUPERSET OF, NOT A SUBSET OF"⟩,
  ⟨0x2285, "", "NOT A SUPERSET OF, SUBSET OF OR EQUAL TO, SUPERSET OF OR EQUAL TO"⟩,
  ⟨0x2288, "NEITHER A", "SUBSET OF NOR EQUAL TO, SUPERSET OF NOR EQUAL TO"⟩,
  ⟨0x228a, "", "SUBSET OF WITH NOT EQUAL TO, SUPERSET OF WITH NOT EQUAL TO"⟩,
  ⟨0x228c, "", "MULTISET, MULTISET MULTIPLICATION, MULTISET UNION, SQUARE IMAGE OF"⟩,
  ⟨0x2290, "SQUARE", "ORIGINAL OF, IMAGE OF OR EQUAL TO, ORIGINAL OF OR EQUAL TO, CAP, CUP"⟩,
  ⟨0x2295, "CIRCLED", "PLUS, MINUS, TIMES, DIVISION SLASH"⟩,
  ⟨0x2299, "CIRCLED", "DOT OPERATOR, RING OPERATOR, ASTERISK OPERATOR, EQUALS, DASH"⟩,
  ⟨0x229e, "SQUARED", "PLUS, MINUS, TIMES, DOT OPERATOR"⟩,
  ⟨0x22a2, "", "RIGHT TACK, LEFT TACK, DOWN TACK, UP TACK, ASSERTION, MODELS, TRUE, FORCES"⟩,
  ⟨0x22aa, "", "TRIPLE VERTICAL BAR RIGHT TURNSTILE, DOUBLE VERTICAL BAR DOUBLE RIGHT TURNSTILE"⟩,
  ⟨0x22ac, "", "DOES NOT PROVE, NOT TRUE, DOES NOT FORCE"⟩,
  ⟨0x22af, "", "NEGATED DOUBLE VERTICAL BAR DOUBLE RIGHT TURNSTILE, PRECEDES UNDER RELATION"⟩,
  ⟨0x22b1, "", "SUCCEEDS UNDER RELATION, NORMAL SUBGROUP OF, CONTAINS AS NORMAL SUBGROUP"⟩,
  ⟨0x22b4, "", "NORMAL SUBGROUP OF OR EQUAL TO, CONTAINS AS NORMAL SUBGROUP OR EQUAL TO"⟩,
  ⟨0x22b6, "", "ORIGINAL OF, IMAGE OF, MULTIMAP, HERMITIAN CONJUGATE MATRIX"⟩,
  ⟨0x22ba, "", "INTERCALATE, XOR, NAND, NOR, RIGHT ANGLE WITH ARC, RIGHT TRIANGLE"⟩,
  ⟨0x22c0, "N-ARY", "LOGICAL AND, LOGICAL OR, INTERSECTION, UNION"⟩,
  ⟨0x22c4, "", "DIAMOND OPERATOR, DOT OPERATOR, STAR OPERATOR, DIVISION TIMES, BOWTIE"⟩,
  ⟨0x22c9, "", "LEFT NORMAL FACTOR SEMIDIRECT PRODUCT, RIGHT NORMAL FACTOR SEMIDIRECT PRODUCT"⟩,
  ⟨0x22cb, "", "LEFT SEMIDIRECT PRODUCT, RIGHT SEMIDIRECT PRODUCT, REVERSED TILDE EQUALS"⟩,
  ⟨0x22ce, "CURLY LOGICAL", "OR, AND"⟩,
  ⟨0x22d0, "DOUBLE", "SUBSET, SUPERSET, INTERSECTION, UNION"⟩,
  ⟨0x22d4, "", "PITCHFORK, EQUAL AND PARALLEL TO, LESS-THAN WITH DOT, GREATER-THAN WITH DOT"⟩,
  ⟨0x22d8, "VERY MUCH", "LESS-THAN, GREATER-THAN"⟩,
  ⟨0x22da, "", "LESS-THAN EQUAL TO OR GREATER-THAN, GREATER-THAN EQUAL TO OR LESS-THAN"⟩,
  ⟨0x22dc, "EQUAL TO OR", "LESS-THAN, GREATER-THAN, PRECEDES, SUCCEEDS"⟩,
  ⟨0x22e0, "DOES NOT", "PRECEDE OR EQUAL, SUCCEED OR EQUAL"⟩,
  ⟨0x22e2, "NOT SQUARE", "IMAGE OF OR EQUAL TO, ORIGINAL OF OR EQUAL TO"⟩,
  ⟨0x22e4, "SQUARE", "IMAGE OF OR NOT EQUAL TO, ORIGINAL OF OR NOT EQUAL TO"⟩,
  ⟨0x22e6, "", "LESS-THAN BUT NOT EQUIVALENT TO, GREATER-THAN BUT NOT EQUIVALENT TO"⟩,
  ⟨0x22e8, "", "PRECEDES BUT NOT EQUIVALENT TO, SUCCEEDS BUT NOT EQUIVALENT TO"⟩,
  ⟨0x22ea, "", "NOT NORMAL SUBGROUP OF, DOES NOT CONTAIN AS NORMAL SUBGROUP"⟩,
  ⟨0x22ec, "NOT", "NORMAL SUBGROUP OF OR EQUAL TO"⟩,
  ⟨0x22ed, "DOES", "NOT CONTAIN AS NORMAL SUBGROUP OR EQUAL"⟩,
  ⟨0x22ee, "", "VERTICAL ELLIPSIS, MIDLINE HORIZONTAL ELLIPSIS, UP RIGHT DIAGONAL ELLIPSIS"⟩,
  ⟨0x22f1, "DOWN", "RIGHT DIAGONAL ELLIPSIS"⟩,
  ⟨0x22f2, "ELEMENT OF WITH", "LONG HORIZONTAL STROKE, VERTICAL BAR AT END OF HORIZONTAL STROKE"⟩,
  ⟨0x22f4, "SMALL", "ELEMENT OF WITH VERTICAL BAR AT END OF HORIZONTAL STROKE"⟩,
  ⟨0x22f5, "ELEMENT OF WITH", "DOT ABOVE, OVERBAR"⟩,
  ⟨0x22f7, "SMALL", "ELEMENT OF WITH OVERBAR"⟩,
  ⟨0x22f8, "ELEMENT OF WITH", "UNDERBAR, TWO HORIZONTAL STROKES"⟩,
  ⟨0x22fa, "CONTAINS WITH", "LONG HORIZONTAL STROKE, VERTICAL BAR AT END OF HORIZONTAL STROKE"⟩,
  ⟨0x22fc, "SMALL", "CONTAINS WITH VERTICAL BAR AT END OF HORIZONTAL STROKE"⟩,
  ⟨0x22fd, "", "CONTAINS WITH OVERBAR, SMALL CONTAINS WITH OVERBAR, Z NOTATION BAG MEMBERSHIP"⟩,
  ⟨0x25a0, "", "BLACK SQUARE, WHITE SQUARE"⟩,
  ⟨0x25a2, "WHITE SQUARE", "WITH ROUNDED CORNERS, CONTAINING BLACK SMALL SQUARE"⟩,
  ⟨0x25a4, "SQUARE WITH", "HORIZONTAL FILL, VERTICAL FILL, ORTHOGONAL CROSSHATCH FILL"⟩,
  ⟨0x25a7, "SQUARE WITH UPPER", "LEFT TO LOWER RIGHT FILL, RIGHT TO LOWER LEFT FILL"⟩,
  ⟨0x25a9, "SQUARE", "WITH DIAGONAL CROSSHATCH FILL"⟩,
  ⟨0x25aa, "", "BLACK SMALL SQUARE, WHITE SMALL SQUARE, BLACK RECTANGLE, WHITE RECTANGLE"⟩,
  ⟨0x25ae, "", "BLACK VERTICAL RECTANGLE, WHITE VERTICAL RECTANGLE, BLACK PARALLELOGRAM"⟩,
  ⟨0x25b1, "", "WHITE PARALLELOGRAM, BLACK UP-POINTING TRIANGLE, WHITE UP-POINTING TRIANGLE"⟩,
  ⟨0x25b4, "", "BLACK UP-POINTING SMALL TRIANGLE, WHITE UP-POINTING SMALL TRIANGLE"⟩,
  ⟨0x25b6, "", "BLACK RIGHT-POINTING TRIANGLE, WHITE RIGHT-POINTING TRIANGLE"⟩,
  ⟨0x25b8, "", "BLACK RIGHT-POINTING SMALL TRIANGLE, WHITE RIGHT-POINTING SMALL TRIANGLE"⟩,
  ⟨0x25ba, "", "BLACK RIGHT-POINTING POINTER, WHITE RIGHT-POINTING POINTER"⟩,
  ⟨0x25bc, "", "BLACK DOWN-POINTING TRIANGLE, WHITE DOWN-POINTING TRIANGLE"⟩,
  ⟨0x25be, "", "BLACK DOWN-POINTING SMALL TRIANGLE, WHITE DOWN-POINTING SMALL TRIANGLE"⟩,
  ⟨0x25c0, "", "BLACK LEFT-POINTING TRIANGLE, WHITE LEFT-POINTING TRIANGLE"⟩,
  ⟨0x25c2, "", "BLACK LEFT-POINTING SMALL TRIANGLE, WHITE LEFT-POINTING SMALL TRIANGLE"⟩,
  ⟨0x25c4, "", "BLACK LEFT-POINTING POINTER, WHITE LEFT-POINTING POINTER, BLACK DIAMOND"⟩,
  ⟨0x25c7, "", "WHITE DIAMOND, WHITE DIAMOND CONTAINING BLACK SMALL DIAMOND, FISHEYE, LOZENGE"⟩,
  ⟨0x25cb, "", "WHITE CIRCLE, DOTTED CIRCLE, CIRCLE WITH VERTICAL FILL, BULLSEYE, BLACK CIRCLE"⟩,
  ⟨0x25d0, "CIRCLE WITH", "LEFT HALF BLACK, RIGHT HALF BLACK, LOWER HALF BLACK"⟩,
  ⟨0x25d3, "CIRCLE WITH UPPER", "HALF BLACK, RIGHT QUADRANT BLACK"⟩,
  ⟨0x25d5, "", "CIRCLE WITH ALL BUT UPPER LEFT QUADRANT BLACK, LEFT HALF BLACK CIRCLE"⟩,
  ⟨0x25d7, "", "RIGHT HALF BLACK CIRCLE, INVERSE BULLET, INVERSE WHITE CIRCLE"⟩,
  ⟨0x25da, "", "UPPER HALF INVERSE WHITE CIRCLE, LOWER HALF INVERSE WHITE CIRCLE"⟩,
  ⟨0x25dc, "UPPER", "LEFT QUADRANT CIRCULAR ARC, RIGHT QUADRANT CIRCULAR ARC"⟩,
  ⟨0x25de, "LOWER", "RIGHT QUADRANT CIRCULAR ARC, LEFT QUADRANT CIRCULAR ARC"⟩,
  ⟨0x25e0, "", "UPPER HALF CIRCLE, LOWER HALF CIRCLE, BLACK LOWER RIGHT TRIANGLE"⟩,
  ⟨0x25e3, "BLACK", "LOWER LEFT TRIANGLE, UPPER LEFT TRIANGLE, UPPER RIGHT TRIANGLE"⟩,
  ⟨0x25e6, "", "WHITE BULLET, SQUARE WITH LEFT HALF BLACK, SQUARE WITH RIGHT HALF BLACK"⟩,
  ⟨0x25e9, "SQUARE WITH", "UPPER LEFT DIAGONAL HALF BLACK, LOWER RIGHT DIAGONAL HALF BLACK"⟩,
  ⟨0x25eb, "WHITE", "SQUARE WITH VERTICAL BISECTING LINE, UP-POINTING TRIANGLE WITH DOT"⟩,
  ⟨0x25ed, "UP-POINTING TRIANGLE WITH", "LEFT HALF BLACK, RIGHT HALF BLACK"⟩,
  ⟨0x25ef, "LARGE", "CIRCLE"⟩,
  ⟨0x25f0, "WHITE SQUARE WITH", "UPPER LEFT QUADRANT, LOWER LEFT QUADRANT"⟩,
  ⟨0x25f2, "WHITE SQUARE WITH", "LOWER RIGHT QUADRANT, UPPER RIGHT QUADRANT"⟩,
  ⟨0x25f4, "WHITE CIRCLE WITH", "UPPER LEFT QUADRANT, LOWER LEFT QUADRANT"⟩,
  ⟨0x25f6, "WHITE CIRCLE WITH", "LOWER RIGHT QUADRANT, UPPER RIGHT QUADRANT"⟩,
  ⟨0x25f8, "", "UPPER LEFT TRIANGLE, UPPER RIGHT TRIANGLE, LOWER LEFT TRIANGLE"⟩,
  ⟨0x25fb, "", "WHITE MEDIUM SQUARE, BLACK MEDIUM SQUARE, WHITE MEDIUM SMALL SQUARE"⟩,
  ⟨0x25fe, "", "BLACK MEDIUM SMALL SQUARE, LOWER RIGHT TRIANGLE, BLACK SUN WITH RAYS, CLOUD"⟩,
  ⟨0x2602, "", "UMBRELLA, SNOWMAN, COMET, BLACK STAR, WHITE STAR, LIGHTNING, THUNDERSTORM"⟩,
  ⟨0x2609, "", "SUN, ASCENDING NODE, DESCENDING NODE, CONJUNCTION, OPPOSITION, BLACK TELEPHONE"⟩,
  ⟨0x260f, "", "WHITE TELEPHONE, BALLOT BOX, BALLOT BOX WITH CHECK, BALLOT BOX WITH X, SALTIRE"⟩,
  ⟨0x2614, "", "UMBRELLA WITH RAIN DROPS, HOT BEVERAGE, WHITE SHOGI PIECE, BLACK SHOGI PIECE"⟩,
  ⟨0x2618, "", "SHAMROCK, REVERSED ROTATED FLORAL HEART BULLET, BLACK LEFT POINTING INDEX"⟩,
  ⟨0x261b, "", "BLACK RIGHT POINTING INDEX, WHITE LEFT POINTING INDEX, WHITE UP POINTING INDEX"⟩,
  ⟨0x261e, "", "WHITE RIGHT POINTING INDEX, WHITE DOWN POINTING INDEX, SKULL AND CROSSBONES"⟩,
  ⟨0x2621, "", "CAUTION SIGN, RADIOACTIVE SIGN, BIOHAZARD SIGN, CADUCEUS, ANKH, ORTHODOX CROSS"⟩,
  ⟨0x2627, "", "CHI RHO, CROSS OF LORRAINE, CROSS OF JERUSALEM, STAR AND CRESCENT"⟩,
  ⟨0x262b, "", "FARSI SYMBOL, ADI SHAKTI, HAMMER AND SICKLE, PEACE SYMBOL, YIN YANG"⟩,
  ⟨0x2630, "TRIGRAM FOR", "HEAVEN, LAKE, FIRE, THUNDER, WIND, WATER, MOUNTAIN, EARTH"⟩,
  ⟨0x2638, "", "WHEEL OF DHARMA, WHITE FROWNING FACE, WHITE SMILING FACE, BLACK SMILING FACE"⟩,
  ⟨0x263c, "WHITE", "SUN WITH RAYS"⟩,
  ⟨0x263d, "", "FIRST QUARTER MOON, LAST QUARTER MOON, MERCURY, FEMALE SIGN, EARTH"⟩,
  ⟨0x2642, "", "MALE SIGN, JUPITER, SATURN, URANUS, NEPTUNE, PLUTO, ARIES, TAURUS, GEMINI"⟩,
  ⟨0x264b, "", "CANCER, LEO, VIRGO, LIBRA, SCORPIUS, SAGITTARIUS, CAPRICORN, AQUARIUS, PISCES"⟩,
  ⟨0x2654, "WHITE CHESS", "KING, QUEEN, ROOK, BISHOP, KNIGHT, PAWN"⟩,
  ⟨0x265a, "BLACK CHESS", "KING, QUEEN, ROOK, BISHOP, KNIGHT, PAWN"⟩,
  ⟨0x2660, "", "BLACK SPADE SUIT, WHITE HEART SUIT, WHITE DIAMOND SUIT"⟩,
  ⟨0x2663, "", "BLACK CLUB SUIT, WHITE SPADE SUIT, BLACK HEART SUIT, BLACK DIAMOND SUIT"⟩,
  ⟨0x2667, "", "WHITE CLUB SUIT, HOT SPRINGS, QUARTER NOTE, EIGHTH NOTE, BEAMED EIGHTH NOTES"⟩,
  ⟨0x266c, "", "BEAMED SIXTEENTH NOTES, MUSIC FLAT SIGN, MUSIC NATURAL SIGN, MUSIC SHARP SIGN"⟩,
  ⟨0x2670, "", "WEST SYRIAC CROSS, EAST SYRIAC CROSS, UNIVERSAL RECYCLING SYMBOL"⟩,
  ⟨0x2673, "RECYCLING SYMBOL FOR", "TYPE-1 PLASTICS, TYPE-2 PLASTICS"⟩,
  ⟨0x2675, "RECYCLING SYMBOL FOR", "TYPE-3 PLASTICS, TYPE-4 PLASTICS, TYPE-5 PLASTICS"⟩,
  ⟨0x2678, "RECYCLING SYMBOL FOR", "TYPE-6 PLASTICS, TYPE-7 PLASTICS, GENERIC MATERIALS"⟩,
  ⟨0x267b, "", "BLACK UNIVERSAL RECYCLING SYMBOL, RECYCLED PAPER SYMBOL"⟩,
  ⟨0x267d, "", "PARTIALLY-RECYCLED PAPER SYMBOL, PERMANENT PAPER SIGN, WHEELCHAIR SYMBOL"⟩,
  ⟨0x2680, "DIE", "FACE-1, FACE-2, FACE-3, FACE-4, FACE-5, FACE-6"⟩,
  ⟨0x2686, "WHITE CIRCLE WITH", "DOT RIGHT, TWO DOTS"⟩,
  ⟨0x2688, "BLACK CIRCLE WITH", "WHITE DOT RIGHT, TWO WHITE DOTS"⟩,
  ⟨0x268a, "MONOGRAM FOR", "YANG, YIN"⟩,
  ⟨0x268c, "DIGRAM FOR", "GREATER YANG, LESSER YIN, LESSER YANG, GREATER YIN"⟩,
  ⟨0x2690, "", "WHITE FLAG, BLACK FLAG, HAMMER AND PICK, ANCHOR, CROSSED SWORDS"⟩,
  ⟨0x2695, "", "STAFF OF AESCULAPIUS, SCALES, ALEMBIC, FLOWER, GEAR, STAFF OF HERMES"⟩,
  ⟨0x269b, "", "ATOM SYMBOL, FLEUR-DE-LIS, OUTLINED WHITE STAR, THREE LINES CONVERGING RIGHT"⟩,
  ⟨0x269f, "", "THREE LINES CONVERGING LEFT, WARNING SIGN, HIGH VOLTAGE SIGN"⟩,
  ⟨0x26a2, "", "DOUBLED FEMALE SIGN, DOUBLED MALE SIGN, INTERLOCKED FEMALE AND MALE SIGN"⟩,
  ⟨0x26a5, "MALE", "AND FEMALE SIGN, WITH STROKE SIGN, WITH STROKE AND MALE AND FEMALE SIGN"⟩,
  ⟨0x26a8, "", "VERTICAL MALE WITH STROKE SIGN, HORIZONTAL MALE WITH STROKE SIGN"⟩,
  ⟨0x26aa, "MEDIUM", "WHITE CIRCLE, BLACK CIRCLE, SMALL WHITE CIRCLE"⟩,
  ⟨0x26ad, "", "MARRIAGE SYMBOL, DIVORCE SYMBOL, UNMARRIED PARTNERSHIP SYMBOL"⟩,
  ⟨0x26b0, "", "COFFIN, FUNERAL URN, NEUTER, CERES, PALLAS, JUNO, VESTA"⟩,
  ⟨0x26b7, "", "CHIRON, BLACK MOON LILITH, SEXTILE, SEMISEXTILE, QUINCUNX, SESQUIQUADRATE"⟩,
  ⟨0x26bd, "", "SOCCER BALL, BASEBALL, SQUARED KEY, WHITE DRAUGHTS MAN, WHITE DRAUGHTS KING"⟩,
  ⟨0x26c2, "BLACK DRAUGHTS", "MAN, KING"⟩,
  ⟨0x26c4, "", "SNOWMAN WITHOUT SNOW, SUN BEHIND CLOUD, RAIN, BLACK SNOWMAN"⟩,
  ⟨0x26c8, "", "THUNDER CLOUD AND RAIN, TURNED WHITE SHOGI PIECE, TURNED BLACK SHOGI PIECE"⟩,
  ⟨0x26cb, "", "WHITE DIAMOND IN SQUARE, CROSSING LANES, DISABLED CAR, OPHIUCHUS"⟩,
  ⟨0x26cf, "", "PICK, CAR SLIDING, HELMET WITH WHITE CROSS, CIRCLED CROSSING LANES, CHAINS"⟩,
  ⟨0x26d4, "", "NO ENTRY, ALTERNATE ONE-WAY LEFT WAY TRAFFIC, BLACK TWO-WAY LEFT WAY TRAFFIC"⟩,
  ⟨0x26d7, "", "WHITE TWO-WAY LEFT WAY TRAFFIC, BLACK LEFT LANE MERGE, WHITE LEFT LANE MERGE"⟩,
  ⟨0x26da, "", "DRIVE SLOW SIGN, HEAVY WHITE DOWN-POINTING TRIANGLE, LEFT CLOSED ENTRY"⟩,
  ⟨0x26dd, "", "SQUARED SALTIRE, FALLING DIAGONAL IN WHITE CIRCLE IN BLACK SQUARE, BLACK TRUCK"⟩,
  ⟨0x26e0, "RESTRICTED LEFT", "ENTRY-1, ENTRY-2"⟩,
  ⟨0x26e2, "", "ASTRONOMICAL SYMBOL FOR URANUS, HEAVY CIRCLE WITH STROKE AND TWO DOTS ABOVE"⟩,
  ⟨0x26e4, "", "PENTAGRAM, RIGHT-HANDED INTERLACED PENTAGRAM"⟩,
  ⟨0x26e6, "", "LEFT-HANDED INTERLACED PENTAGRAM, INVERTED PENTAGRAM, BLACK CROSS ON SHIELD"⟩,
  ⟨0x26e9, "", "SHINTO SHRINE, CHURCH, CASTLE, HISTORIC SITE, GEAR WITHOUT HUB"⟩,
  ⟨0x26ee, "", "GEAR WITH HANDLES, MAP SYMBOL FOR LIGHTHOUSE, MOUNTAIN, UMBRELLA ON GROUND"⟩,
  ⟨0x26f2, "", "FOUNTAIN, FLAG IN HOLE, FERRY, SAILBOAT, SQUARE FOUR CORNERS, SKIER, ICE SKATE"⟩,
  ⟨0x26f9, "", "PERSON WITH BALL, TENT, JAPANESE BANK SYMBOL, HEADSTONE GRAVEYARD SYMBOL"⟩,
  ⟨0x26fd, "", "FUEL PUMP, CUP ON BLACK SQUARE, WHITE FLAG WITH HORIZONTAL MIDDLE BLACK STRIPE"⟩,
  ⟨0x2700, "BLACK", "SAFETY SCISSORS"⟩,
  ⟨0x2701, "", "UPPER BLADE SCISSORS, BLACK SCISSORS, LOWER BLADE SCISSORS, WHITE SCISSORS"⟩,
  ⟨0x2705, "", "WHITE HEAVY CHECK MARK, TELEPHONE LOCATION SIGN, TAPE DRIVE, AIRPLANE, ENVELOPE"⟩,
  ⟨0x270a, "RAISED", "FIST, HAND"⟩,
  ⟨0x270c, "", "VICTORY HAND, WRITING HAND, LOWER RIGHT PENCIL, PENCIL, UPPER RIGHT PENCIL"⟩,
  ⟨0x2711, "", "WHITE NIB, BLACK NIB, CHECK MARK, HEAVY CHECK MARK, MULTIPLICATION X"⟩,
  ⟨0x2716, "", "HEAVY MULTIPLICATION X, BALLOT X, HEAVY BALLOT X, OUTLINED GREEK CROSS"⟩,
  ⟨0x271a, "", "HEAVY GREEK CROSS, OPEN CENTRE CROSS, HEAVY OPEN CENTRE CROSS, LATIN CROSS"⟩,
  ⟨0x271e, "", "SHADOWED WHITE LATIN CROSS, OUTLINED LATIN CROSS, MALTESE CROSS, STAR OF DAVID"⟩,
  ⟨0x2722, "FOUR", "TEARDROP-SPOKED ASTERISK, BALLOON-SPOKED ASTERISK"⟩,
  ⟨0x2724, "", "HEAVY FOUR BALLOON-SPOKED ASTERISK, FOUR CLUB-SPOKED ASTERISK"⟩,
  ⟨0x2726, "", "BLACK FOUR POINTED STAR, WHITE FOUR POINTED STAR, SPARKLES"⟩,
  ⟨0x2729, "", "STRESS OUTLINED WHITE STAR, CIRCLED WHITE STAR, OPEN CENTRE BLACK STAR"⟩,
  ⟨0x272c, "", "BLACK CENTRE WHITE STAR, OUTLINED BLACK STAR, HEAVY OUTLINED BLACK STAR"⟩,
  ⟨0x272f, "", "PINWHEEL STAR, SHADOWED WHITE STAR, HEAVY ASTERISK, OPEN CENTRE ASTERISK"⟩,
  ⟨0x2733, "EIGHT", "SPOKED ASTERISK, POINTED BLACK STAR, POINTED PINWHEEL STAR"⟩,
  ⟨0x2736, "", "SIX POINTED BLACK STAR, EIGHT POINTED RECTILINEAR BLACK STAR"⟩,
  ⟨0x2738, "HEAVY", "EIGHT POINTED RECTILINEAR BLACK STAR"⟩,
  ⟨0x2739, "", "TWELVE POINTED BLACK STAR, SIXTEEN POINTED ASTERISK, TEARDROP-SPOKED ASTERISK"⟩,
  ⟨0x273c, "", "OPEN CENTRE TEARDROP-SPOKED ASTERISK, HEAVY TEARDROP-SPOKED ASTERISK"⟩,
  ⟨0x273e, "", "SIX PETALLED BLACK AND WHITE FLORETTE, BLACK FLORETTE, WHITE FLORETTE"⟩,
  ⟨0x2741, "", "EIGHT PETALLED OUTLINED BLACK FLORETTE, CIRCLED OPEN CENTRE EIGHT POINTED STAR"⟩,
  ⟨0x2743, "", "HEAVY TEARDROP-SPOKED PINWHEEL ASTERISK, SNOWFLAKE, TIGHT TRIFOLIATE SNOWFLAKE"⟩,
  ⟨0x2746, "", "HEAVY CHEVRON SNOWFLAKE, SPARKLE, HEAVY SPARKLE, BALLOON-SPOKED ASTERISK"⟩,
  ⟨0x274a, "EIGHT", "TEARDROP-SPOKED PROPELLER ASTERISK"⟩,
  ⟨0x274b, "HEAVY", "EIGHT TEARDROP-SPOKED PROPELLER ASTERISK"⟩,
  ⟨0x274c, "", "CROSS MARK, SHADOWED WHITE CIRCLE, NEGATIVE SQUARED CROSS MARK"⟩,
  ⟨0x274f, "", "LOWER RIGHT DROP-SHADOWED WHITE SQUARE, UPPER RIGHT DROP-SHADOWED WHITE SQUARE"⟩,
  ⟨0x2751, "", "LOWER RIGHT SHADOWED WHITE SQUARE, UPPER RIGHT SHADOWED WHITE SQUARE"⟩,
  ⟨0x2753, "BLACK", "QUESTION MARK ORNAMENT"⟩,
  ⟨0x2754, "WHITE", "QUESTION MARK ORNAMENT, EXCLAMATION MARK ORNAMENT"⟩,
  ⟨0x2756, "", "BLACK DIAMOND MINUS WHITE X, HEAVY EXCLAMATION MARK SYMBOL"⟩,
  ⟨0x2758, "", "LIGHT VERTICAL BAR, MEDIUM VERTICAL BAR, HEAVY VERTICAL BAR"⟩,
  ⟨0x275b, "HEAVY SINGLE", "TURNED COMMA QUOTATION MARK ORNAMENT, COMMA QUOTATION MARK ORNAMENT"⟩,
  ⟨0x275d, "HEAVY DOUBLE", "TURNED COMMA QUOTATION MARK ORNAMENT, COMMA QUOTATION MARK ORNAMENT"⟩,
  ⟨0x275f, "HEAVY", "LOW SINGLE COMMA QUOTATION MARK ORNAMENT"⟩,
  ⟨0x2760, "HEAVY", "LOW DOUBLE COMMA QUOTATION MARK ORNAMENT"⟩,
  ⟨0x2761, "CURVED", "STEM PARAGRAPH SIGN ORNAMENT"⟩,
  ⟨0x2762, "HEAVY", "EXCLAMATION MARK ORNAMENT, HEART EXCLAMATION MARK ORNAMENT, BLACK HEART"⟩,
  ⟨0x2765, "", "ROTATED HEAVY BLACK HEART BULLET, FLORAL HEART, ROTATED FLORAL HEART BULLET"⟩,
  ⟨0x2768, "MEDIUM", "LEFT PARENTHESIS ORNAMENT, RIGHT PARENTHESIS ORNAMENT"⟩,
  ⟨0x276a, "MEDIUM FLATTENED", "LEFT PARENTHESIS ORNAMENT, RIGHT PARENTHESIS ORNAMENT"⟩,
  ⟨0x276c, "MEDIUM", "LEFT-POINTING ANGLE BRACKET ORNAMENT"⟩,
  ⟨0x276d, "MEDIUM", "RIGHT-POINTING ANGLE BRACKET ORNAMENT"⟩,
  ⟨0x276e, "HEAVY", "LEFT-POINTING ANGLE QUOTATION MARK ORNAMENT"⟩,
  ⟨0x276f, "HEAVY", "RIGHT-POINTING ANGLE QUOTATION MARK ORNAMENT"⟩,
  ⟨0x2770, "HEAVY", "LEFT-POINTING ANGLE BRACKET ORNAMENT"⟩,
  ⟨0x2771, "HEAVY", "RIGHT-POINTING ANGLE BRACKET ORNAMENT"⟩,
  ⟨0x2772, "LIGHT", "LEFT TORTOISE SHELL BRACKET ORNAMENT"⟩,
  ⟨0x2773, "LIGHT", "RIGHT TORTOISE SHELL BRACKET ORNAMENT"⟩,
  ⟨0x2774, "MEDIUM", "LEFT CURLY BRACKET ORNAMENT, RIGHT CURLY BRACKET ORNAMENT"⟩,
  ⟨0x2776, "DINGBAT NEGATIVE CIRCLED DIGIT", "ONE, TWO, THREE, FOUR, FIVE, SIX, SEVEN, EIGHT"⟩,
  ⟨0x277e, "DINGBAT NEGATIVE CIRCLED", "DIGIT NINE, NUMBER TEN"⟩,
  ⟨0x2780, "DINGBAT CIRCLED SANS-SERIF DIGIT", "ONE, TWO, THREE, FOUR, FIVE, SIX, SEVEN, EIGHT"⟩,
  ⟨0x2788, "DINGBAT CIRCLED SANS-SERIF", "DIGIT NINE, NUMBER TEN"⟩,
  ⟨0x278a, "DINGBAT NEGATIVE CIRCLED SANS-SERIF DIGIT", "ONE, TWO, THREE"⟩,
  ⟨0x278d, "DINGBAT NEGATIVE CIRCLED SANS-SERIF DIGIT", "FOUR, FIVE, SIX, SEVEN, EIGHT, NINE"⟩,
  ⟨0x2793, "DINGBAT", "NEGATIVE CIRCLED SANS-SERIF NUMBER TEN"⟩,
  ⟨0x2794, "HEAVY", "WIDE-HEADED RIGHTWARDS ARROW, PLUS SIGN, MINUS SIGN"⟩,
  ⟨0x2797, "HEAVY", "DIVISION SIGN, SOUTH EAST ARROW, RIGHTWARDS ARROW, NORTH EAST ARROW"⟩,
  ⟨0x279b, "", "DRAFTING POINT RIGHTWARDS ARROW, HEAVY ROUND-TIPPED RIGHTWARDS ARROW"⟩,
  ⟨0x279d, "", "TRIANGLE-HEADED RIGHTWARDS ARROW, HEAVY TRIANGLE-HEADED RIGHTWARDS ARROW"⟩,
  ⟨0x279f, "DASHED", "TRIANGLE-HEADED RIGHTWARDS ARROW"⟩,
  ⟨0x27a0, "", "HEAVY DASHED TRIANGLE-HEADED RIGHTWARDS ARROW, BLACK RIGHTWARDS ARROW"⟩,
  ⟨0x27a2, "THREE-D", "TOP-LIGHTED RIGHTWARDS ARROWHEAD, BOTTOM-LIGHTED RIGHTWARDS ARROWHEAD"⟩,
  ⟨0x27a4, "BLACK", "RIGHTWARDS ARROWHEAD"⟩,
  ⟨0x27a5, "HEAVY BLACK CURVED", "DOWNWARDS AND RIGHTWARDS ARROW, UPWARDS AND RIGHTWARDS ARROW"⟩,
  ⟨0x27a7, "", "SQUAT BLACK RIGHTWARDS ARROW, HEAVY CONCAVE-POINTED BLACK RIGHTWARDS ARROW"⟩,
  ⟨0x27a9, "", "RIGHT-SHADED WHITE RIGHTWARDS ARROW, LEFT-SHADED WHITE RIGHTWARDS ARROW"⟩,
  ⟨0x27ab, "BACK-TILTED", "SHADOWED WHITE RIGHTWARDS ARROW"⟩,
  ⟨0x27ac, "FRONT-TILTED", "SHADOWED WHITE RIGHTWARDS ARROW"⟩,
  ⟨0x27ad, "HEAVY", "LOWER RIGHT-SHADOWED WHITE RIGHTWARDS ARROW"⟩,
  ⟨0x27ae, "HEAVY", "UPPER RIGHT-SHADOWED WHITE RIGHTWARDS ARROW"⟩,
  ⟨0x27af, "", "NOTCHED LOWER RIGHT-SHADOWED WHITE RIGHTWARDS ARROW, CURLY LOOP"⟩,
  ⟨0x27b1, "NOTCHED", "UPPER RIGHT-SHADOWED WHITE RIGHTWARDS ARROW"⟩,
  ⟨0x27b2, "", "CIRCLED HEAVY WHITE RIGHTWARDS ARROW, WHITE-FEATHERED RIGHTWARDS ARROW"⟩,
  ⟨0x27b4, "BLACK-FEATHERED", "SOUTH EAST ARROW, RIGHTWARDS ARROW, NORTH EAST ARROW"⟩,
  ⟨0x27b7, "HEAVY BLACK-FEATHERED", "SOUTH EAST ARROW, RIGHTWARDS ARROW, NORTH EAST ARROW"⟩,
  ⟨0x27ba, "", "TEARDROP-BARBED RIGHTWARDS ARROW, HEAVY TEARDROP-SHANKED RIGHTWARDS ARROW"⟩,
  ⟨0x27bc, "", "WEDGE-TAILED RIGHTWARDS ARROW, HEAVY WEDGE-TAILED RIGHTWARDS ARROW"⟩,
  ⟨0x27be, "", "OPEN-OUTLINED RIGHTWARDS ARROW, DOUBLE CURLY LOOP"⟩,
  ⟨0x3000, "IDEOGRAPHIC", "SPACE, COMMA, FULL STOP"⟩,
  ⟨0x3003, "", "DITTO MARK, JAPANESE INDUSTRIAL STANDARD SYMBOL"⟩,
  ⟨0x3005, "IDEOGRAPHIC", "ITERATION MARK, CLOSING MARK, NUMBER ZERO"⟩,
  ⟨0x3008, "", "LEFT ANGLE BRACKET, RIGHT ANGLE BRACKET"⟩,
  ⟨0x300a, "", "LEFT DOUBLE ANGLE BRACKET, RIGHT DOUBLE ANGLE BRACKET, LEFT CORNER BRACKET"⟩,
  ⟨0x300d, "", "RIGHT CORNER BRACKET, LEFT WHITE CORNER BRACKET, RIGHT WHITE CORNER BRACKET"⟩,
  ⟨0x3010, "", "LEFT BLACK LENTICULAR BRACKET, RIGHT BLACK LENTICULAR BRACKET, POSTAL MARK"⟩,
  ⟨0x3013, "", "GETA MARK, LEFT TORTOISE SHELL BRACKET, RIGHT TORTOISE SHELL BRACKET"⟩,
  ⟨0x3016, "", "LEFT WHITE LENTICULAR BRACKET, RIGHT WHITE LENTICULAR BRACKET"⟩,
  ⟨0x3018, "", "LEFT WHITE TORTOISE SHELL BRACKET, RIGHT WHITE TORTOISE SHELL BRACKET"⟩,
  ⟨0x301a, "", "LEFT WHITE SQUARE BRACKET, RIGHT WHITE SQUARE BRACKET, WAVE DASH"⟩,
  ⟨0x301d, "REVERSED", "DOUBLE PRIME QUOTATION MARK"⟩,
  ⟨0x301e, "", "DOUBLE PRIME QUOTATION MARK, LOW DOUBLE PRIME QUOTATION MARK, POSTAL MARK FACE"⟩,
  ⟨0x3021, "HANGZHOU NUMERAL", "ONE, TWO, THREE, FOUR, FIVE, SIX, SEVEN, EIGHT, NINE"⟩,
  ⟨0x302a, "IDEOGRAPHIC", "LEVEL TONE MARK"⟩,
  ⟨0x302b, "IDEOGRAPHIC", "RISING TONE MARK, DEPARTING TONE MARK, ENTERING TONE MARK"⟩,
  ⟨0x302e, "", "HANGUL SINGLE DOT TONE MARK, HANGUL DOUBLE DOT TONE MARK, WAVY DASH"⟩,
  ⟨0x3031, "VERTICAL KANA REPEAT", "MARK, WITH VOICED SOUND MARK, MARK UPPER HALF"⟩,
  ⟨0x3034, "VERTICAL KANA REPEAT", "WITH VOICED SOUND MARK UPPER HALF, MARK LOWER HALF"⟩,
  ⟨0x3036, "", "CIRCLED POSTAL MARK, IDEOGRAPHIC TELEGRAPH LINE FEED SEPARATOR SYMBOL"⟩,
  ⟨0x3038, "HANGZHOU NUMERAL", "TEN, TWENTY, THIRTY"⟩,
  ⟨0x303b, "", "VERTICAL IDEOGRAPHIC ITERATION MARK, MASU MARK, PART ALTERNATION MARK"⟩,
  ⟨0x303e, "IDEOGRAPHIC", "VARIATION INDICATOR, HALF FILL SPACE"⟩,
  ⟨0xfeff, "ZERO", "WIDTH NO-BREAK SPACE"⟩,
  ⟨0xfff9, "INTERLINEAR ANNOTATION", "ANCHOR, SEPARATOR, TERMINATOR"⟩,
  ⟨0xfffc, "", "OBJECT REPLACEMENT CHARACTER, REPLACEMENT CHARACTER"⟩,
  ⟨0x1f600, "", "GRINNING FACE, GRINNING FACE WITH SMILING EYES, FACE WITH TEARS OF JOY"⟩,
  ⟨0x1f603, "SMILING FACE WITH OPEN", "MOUTH, MOUTH AND SMILING EYES, MOUTH AND COLD SWEAT"⟩,
  ⟨0x1f606, "SMILING FACE WITH", "OPEN MOUTH AND TIGHTLY-CLOSED EYES, HALO, HORNS"⟩,
  ⟨0x1f609, "", "WINKING FACE, SMILING FACE WITH SMILING EYES, FACE SAVOURING DELICIOUS FOOD"⟩,
  ⟨0x1f60c, "", "RELIEVED FACE, SMILING FACE WITH HEART-SHAPED EYES"⟩,
  ⟨0x1f60e, "", "SMILING FACE WITH SUNGLASSES, SMIRKING FACE, NEUTRAL FACE"⟩,
  ⟨0x1f611, "", "EXPRESSIONLESS FACE, UNAMUSED FACE, FACE WITH COLD SWEAT, PENSIVE FACE"⟩,
  ⟨0x1f615, "", "CONFUSED FACE, CONFOUNDED FACE, KISSING FACE, FACE THROWING A KISS"⟩,
  ⟨0x1f619, "KISSING FACE WITH", "SMILING EYES, CLOSED EYES"⟩,
  ⟨0x1f61b, "FACE", "WITH STUCK-OUT TONGUE"⟩,
  ⟨0x1f61c, "FACE WITH STUCK-OUT TONGUE AND", "WINKING EYE, TIGHTLY-CLOSED EYES"⟩,
  ⟨0x1f61e, "", "DISAPPOINTED FACE, WORRIED FACE, ANGRY FACE, POUTING FACE, CRYING FACE"⟩,
  ⟨0x1f623, "", "PERSEVERING FACE, FACE WITH LOOK OF TRIUMPH, DISAPPOINTED BUT RELIEVED FACE"⟩,
  ⟨0x1f626, "", "FROWNING FACE WITH OPEN MOUTH, ANGUISHED FACE, FEARFUL FACE"⟩,
  ⟨0x1f629, "", "WEARY FACE, SLEEPY FACE, TIRED FACE, GRIMACING FACE, LOUDLY CRYING FACE"⟩,
  ⟨0x1f62e, "", "FACE WITH OPEN MOUTH, HUSHED FACE, FACE WITH OPEN MOUTH AND COLD SWEAT"⟩,
  ⟨0x1f631, "", "FACE SCREAMING IN FEAR, ASTONISHED FACE, FLUSHED FACE"⟩,
  ⟨0x1f634, "", "SLEEPING FACE, DIZZY FACE, FACE WITHOUT MOUTH, FACE WITH MEDICAL MASK"⟩,
  ⟨0x1f638, "", "GRINNING CAT FACE WITH SMILING EYES, CAT FACE WITH TEARS OF JOY"⟩,
  ⟨0x1f63a, "SMILING CAT FACE WITH", "OPEN MOUTH, HEART-SHAPED EYES"⟩,
  ⟨0x1f63c, "", "CAT FACE WITH WRY SMILE, KISSING CAT FACE WITH CLOSED EYES, POUTING CAT FACE"⟩,
  ⟨0x1f63f, "", "CRYING CAT FACE, WEARY CAT FACE, SLIGHTLY FROWNING FACE, SLIGHTLY SMILING FACE"⟩,
  ⟨0x1f643, "", "UPSIDE-DOWN FACE, FACE WITH ROLLING EYES, FACE WITH NO GOOD GESTURE"⟩,
  ⟨0x1f646, "", "FACE WITH OK GESTURE, PERSON BOWING DEEPLY, SEE-NO-EVIL MONKEY"⟩,
  ⟨0x1f649, "", "HEAR-NO-EVIL MONKEY, SPEAK-NO-EVIL MONKEY, HAPPY PERSON RAISING ONE HAND"⟩,
  ⟨0x1f64c, "PERSON", "RAISING BOTH HANDS IN CELEBRATION, FROWNING"⟩,
  ⟨0x1f64e, "PERSON WITH", "POUTING FACE, FOLDED HANDS"⟩]

def nameAliases : List (Nat × String) := [
  (0x0, "NULL, NUL"),
  (0x1, "START OF HEADING, SOH"),
  (0x2, "START OF TEXT, STX"),
  (0x3, "END OF TEXT, ETX"),
  (0x4, "END OF TRANSMISSION, EOT"),
  (0x5, "ENQUIRY, ENQ"),
  (0x6, "ACKNOWLEDGE, ACK"),
  (0x7, "ALERT, BEL"),
  (0x8, "BACKSPACE, BS"),
  (0x9, "CHARACTER TABULATION, HORIZONTAL TABULATION, HT, TAB"),
  (0xa, "LINE FEED, NEW LINE, END OF LINE, EOL, LF, NL"),
  (0xb, "LINE TABULATION, VERTICAL TABULATION, VT"),
  (0xc, "FORM FEED, FF"),
  (0xd, "CARRIAGE RETURN, CR"),
  (0xe, "SHIFT OUT, LOCKING-SHIFT ONE, SO"),
  (0xf, "SHIFT IN, LOCKING-SHIFT ZERO, SI"),
  (0x10, "DATA LINK ESCAPE, DLE"),
  (0x11, "DEVICE CONTROL ONE, DC1"),
  (0x12, "DEVICE CONTROL TWO, DC2"),
  (0x13, "DEVICE CONTROL THREE, DC3"),
  (0x14, "DEVICE CONTROL FOUR, DC4"),
  (0x15, "NEGATIVE ACKNOWLEDGE, NAK"),
  (0x16, "SYNCHRONOUS IDLE, SYN"),
  (0x17, "END OF TRANSMISSION BLOCK, ETB"),
  (0x18, "CANCEL, CAN"),
  (0x19, "END OF MEDIUM, EOM"),
  (0x1a, "SUBSTITUTE, SUB"),
  (0x1b, "ESCAPE, ESC"),
  (0x1c, "INFORMATION SEPARATOR FOUR, FILE SEPARATOR, FS"),
  (0x1d, "INFORMATION SEPARATOR THREE, GROUP SEPARATOR, GS"),
  (0x1e, "INFORMATION SEPARATOR TWO, RECORD SEPARATOR, RS"),
  (0x1f, "INFORMATION SEPARATOR ONE, UNIT SEPARATOR, US"),
  (0x20, "SP"),
  (0x7f, "DELETE, DEL"),
  (0x80, "PADDING CHARACTER, PAD"),
  (0x81, "HIGH OCTET PRESET, HOP"),
  (0x82, "BREAK PERMITTED HERE, BPH"),
  (0x83, "NO BREAK HERE, NBH"),
  (0x84, "INDEX, IND"),
  (0x85, "NEXT LINE, NEL"),
  (0x86, "START OF SELECTED AREA, SSA"),
  (0x87, "END OF SELECTED AREA, ESA"),
  (0x88, "CHARACTER TABULATION SET, HORIZONTAL TABULATION SET, HTS"),
  (0x89, "CHARACTER TABULATION WITH JUSTIFICATION, HORIZONTAL TABULATION WITH JUSTIFICATION, HTJ"),
  (0x8a, "LINE TABULATION SET, VERTICAL TABULATION SET, VTS"),
  (0x8b, "PARTIAL LINE FORWARD, PARTIAL LINE DOWN, PLD"),
  (0x8c, "PARTIAL LINE BACKWARD, PARTIAL LINE UP, PLU"),
  (0x8d, "REVERSE LINE FEED, REVERSE INDEX, RI"),
  (0x8e, "SINGLE SHIFT TWO, SINGLE-SHIFT-2, SS2"),
  (0x8f, "SINGLE SHIFT THREE, SINGLE-SHIFT-3, SS3"),
  (0x90, "DEVICE CONTROL STRING, DCS"),
  (0x91, "PRIVATE USE ONE, PRIVATE USE-1, PU1"),
  (0x92, "PRIVATE USE TWO, PRIVATE USE-2, PU2"),
  (0x93, "SET TRANSMIT STATE, STS"),
  (0x94, "CANCEL CHARACTER, CCH"),
  (0x95, "MESSAGE WAITING, MW"),
  (0x96, "START OF GUARDED AREA, START OF PROTECTED AREA, SPA"),
  (0x97, "END OF GUARDED AREA, END OF PROTECTED AREA, EPA"),
  (0x98, "START OF STRING, SOS"),
  (0x99, "SINGLE GRAPHIC CHARACTER INTRODUCER, SGC"),
  (0x9a, "SINGLE CHARACTER INTRODUCER, SCI"),
  (0x9b, "CONTROL SEQUENCE INTRODUCER, CSI"),
  (0x9c, "STRING TERMINATOR, ST"),
  (0x9d, "OPERATING SYSTEM COMMAND, OSC"),
  (0x9e, "PRIVACY MESSAGE, PM"),
  (0x9f, "APPLICATION PROGRAM COMMAND, APC"),
  (0xa0, "NBSP"),
  (0xad, "SHY"),
  (0x200b, "ZWSP"),
  (0x200c, "ZWNJ"),
  (0x200d, "ZWJ"),
  (0x200e, "LRM"),
  (0x200f, "RLM"),
  (0x202a, "LRE"),
  (0x202b, "RLE"),
  (0x202c, "PDF"),
  (0x202d, "LRO"),
  (0x202e, "RLO"),
  (0x202f, "NNBSP"),
  (0x205f, "MMSP"),
  (0x2060, "WJ"),
  (0x2066, "LRI"),
  (0x2067, "RLI"),
  (0x2068, "FSI"),
  (0x2069, "PDI"),
  (0x2118, "WEIERSTRASS ELLIPTIC FUNCTION"),
  (0xfeff, "BYTE ORDER MARK, BOM, ZWNBSP")]

end DocFinder.Text
