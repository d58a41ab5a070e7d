/-!
# Folding names

Names of hosts are compared without regard to case, and some characters stand for others or for
nothing. The tables cover the alphabetic scripts, the letters and digits within signs, the ligatures
of Latin and the wide forms; ideographs and the presentation forms of Arabic stand for themselves.
-/

namespace Intake.Text

/-- Runs of characters that stand for a run of others: the first and the last code point, and the one
that the first stands for. -/
def foldRuns : List (Nat × Nat × Nat) :=
  [(0x41, 0x5A, 0x61), (0xC0, 0xD6, 0xE0), (0xD8, 0xDE, 0xF8), (0x388, 0x38A, 0x3AD),
    (0x391, 0x3A1, 0x3B1), (0x3A3, 0x3AB, 0x3C3), (0x3FD, 0x3FF, 0x37B), (0x400, 0x40F, 0x450),
    (0x410, 0x42F, 0x430), (0x531, 0x556, 0x561), (0x13F8, 0x13FD, 0x13F0),
    (0x1C90, 0x1CBA, 0x10D0), (0x1CBD, 0x1CBF, 0x10FD), (0x1D33, 0x1D3A, 0x67),
    (0x1D5D, 0x1D5F, 0x3B2), (0x1DA4, 0x1DA6, 0x268), (0x1DAE, 0x1DB1, 0x272),
    (0x1DBC, 0x1DBE, 0x290), (0x1F08, 0x1F0F, 0x1F00), (0x1F18, 0x1F1D, 0x1F10),
    (0x1F28, 0x1F2F, 0x1F20), (0x1F38, 0x1F3F, 0x1F30), (0x1F48, 0x1F4D, 0x1F40),
    (0x1F68, 0x1F6F, 0x1F60), (0x2074, 0x2079, 0x34), (0x2080, 0x2089, 0x30),
    (0x2096, 0x2099, 0x6B), (0x2119, 0x211B, 0x70), (0x2460, 0x2468, 0x31), (0x24B6, 0x24CF, 0x61),
    (0x24D0, 0x24E9, 0x61), (0x2C00, 0x2C2F, 0x2C30), (0xAB70, 0xABBF, 0x13A0),
    (0xFF01, 0xFF0D, 0x21), (0xFF0F, 0xFF20, 0x2F), (0xFF21, 0xFF3A, 0x61), (0xFF3B, 0xFF5E, 0x3B),
    (0xFF85, 0xFF8A, 0x30CA), (0xFF8F, 0xFF93, 0x30DE), (0xFF96, 0xFF9B, 0x30E8),
    (0xFFA7, 0xFFA9, 0x1103), (0xFFAA, 0xFFAF, 0x11B0), (0xFFB1, 0xFFB3, 0x1106),
    (0xFFB5, 0xFFBE, 0x1109), (0xFFC2, 0xFFC7, 0x1161), (0xFFCA, 0xFFCF, 0x1167),
    (0xFFD2, 0xFFD7, 0x116D), (0xFFDA, 0xFFDC, 0x1173), (0xFFE9, 0xFFEC, 0x2190),
    (0x10400, 0x10427, 0x10428), (0x1D400, 0x1D419, 0x61), (0x1D41A, 0x1D433, 0x61),
    (0x1D434, 0x1D44D, 0x61), (0x1D44E, 0x1D454, 0x61), (0x1D456, 0x1D467, 0x69),
    (0x1D468, 0x1D481, 0x61), (0x1D482, 0x1D49B, 0x61), (0x1D4A9, 0x1D4AC, 0x6E),
    (0x1D4AE, 0x1D4B5, 0x73), (0x1D4B6, 0x1D4B9, 0x61), (0x1D4BD, 0x1D4C3, 0x68),
    (0x1D4C5, 0x1D4CF, 0x70), (0x1D4D0, 0x1D4E9, 0x61), (0x1D4EA, 0x1D503, 0x61),
    (0x1D507, 0x1D50A, 0x64), (0x1D50D, 0x1D514, 0x6A), (0x1D516, 0x1D51C, 0x73),
    (0x1D51E, 0x1D537, 0x61), (0x1D53B, 0x1D53E, 0x64), (0x1D540, 0x1D544, 0x69),
    (0x1D54A, 0x1D550, 0x73), (0x1D552, 0x1D56B, 0x61), (0x1D56C, 0x1D585, 0x61),
    (0x1D586, 0x1D59F, 0x61), (0x1D5A0, 0x1D5B9, 0x61), (0x1D5BA, 0x1D5D3, 0x61),
    (0x1D5D4, 0x1D5ED, 0x61), (0x1D5EE, 0x1D607, 0x61), (0x1D608, 0x1D621, 0x61),
    (0x1D622, 0x1D63B, 0x61), (0x1D63C, 0x1D655, 0x61), (0x1D656, 0x1D66F, 0x61),
    (0x1D670, 0x1D689, 0x61), (0x1D68A, 0x1D6A3, 0x61), (0x1D7CE, 0x1D7D7, 0x30),
    (0x1D7D8, 0x1D7E1, 0x30), (0x1D7E2, 0x1D7EB, 0x30), (0x1D7EC, 0x1D7F5, 0x30),
    (0x1D7F6, 0x1D7FF, 0x30)]

/-- Runs in which every other code point, from the first to the last, stands for the one after it. -/
def foldPairs : List (Nat × Nat) :=
  [(0x100, 0x12E), (0x134, 0x136), (0x139, 0x13D), (0x141, 0x147), (0x14A, 0x176), (0x179, 0x17D),
    (0x182, 0x184), (0x187, 0x187), (0x18B, 0x18B), (0x191, 0x191), (0x198, 0x198), (0x1A0, 0x1A4),
    (0x1A7, 0x1A7), (0x1AC, 0x1AC), (0x1AF, 0x1AF), (0x1B3, 0x1B5), (0x1B8, 0x1B8), (0x1BC, 0x1BC),
    (0x1CD, 0x1DB), (0x1DE, 0x1EE), (0x1F4, 0x1F4), (0x1F8, 0x21E), (0x222, 0x232), (0x23B, 0x23B),
    (0x241, 0x241), (0x246, 0x24E), (0x370, 0x372), (0x376, 0x376), (0x3D8, 0x3EE), (0x3F7, 0x3F7),
    (0x3FA, 0x3FA), (0x460, 0x480), (0x48A, 0x4BE), (0x4C1, 0x4CD), (0x4D0, 0x52E),
    (0x1E00, 0x1E94), (0x1EA0, 0x1EFE), (0x2C60, 0x2C60), (0x2C67, 0x2C6B), (0x2C72, 0x2C72),
    (0x2C75, 0x2C75), (0x2C80, 0x2CE2), (0x2CEB, 0x2CED), (0x2CF2, 0x2CF2), (0xA640, 0xA66C),
    (0xA680, 0xA69A), (0xA722, 0xA72E), (0xA732, 0xA76E), (0xA779, 0xA77B), (0xA77E, 0xA786),
    (0xA78B, 0xA78B), (0xA790, 0xA792), (0xA796, 0xA7A8), (0xA7B4, 0xA7C2), (0xA7C7, 0xA7C9),
    (0xA7D0, 0xA7D0), (0xA7D6, 0xA7D8), (0xA7F5, 0xA7F5)]

/-- Code points outside the runs, with the text that each stands for. -/
def foldSingles : List (Nat × String) :=
  [(0xA0, "\x20"), (0xA8, "\x20\u0308"), (0xAA, "a"), (0xAF, "\x20\u0304"), (0xB2, "2"),
    (0xB3, "3"), (0xB4, "\x20\u0301"), (0xB5, "μ"), (0xB8, "\x20\u0327"), (0xB9, "1"), (0xBA, "o"),
    (0xBC, "1⁄4"), (0xBD, "1⁄2"), (0xBE, "3⁄4"), (0x130, "i\u0307"), (0x132, "ij"), (0x133, "ij"),
    (0x13F, "l·"), (0x140, "l·"), (0x149, "ʼn"), (0x178, "ÿ"), (0x17F, "s"), (0x181, "ɓ"),
    (0x186, "ɔ"), (0x189, "ɖ"), (0x18A, "ɗ"), (0x18E, "ǝ"), (0x18F, "ə"), (0x190, "ɛ"),
    (0x193, "ɠ"), (0x194, "ɣ"), (0x196, "ɩ"), (0x197, "ɨ"), (0x19C, "ɯ"), (0x19D, "ɲ"),
    (0x19F, "ɵ"), (0x1A6, "ʀ"), (0x1A9, "ʃ"), (0x1AE, "ʈ"), (0x1B1, "ʊ"), (0x1B2, "ʋ"),
    (0x1B7, "ʒ"), (0x1C4, "dž"), (0x1C5, "dž"), (0x1C6, "dž"), (0x1C7, "lj"), (0x1C8, "lj"),
    (0x1C9, "lj"), (0x1CA, "nj"), (0x1CB, "nj"), (0x1CC, "nj"), (0x1F1, "dz"), (0x1F2, "dz"),
    (0x1F3, "dz"), (0x1F6, "ƕ"), (0x1F7, "ƿ"), (0x220, "ƞ"), (0x23A, "ⱥ"), (0x23D, "ƚ"),
    (0x23E, "ⱦ"), (0x243, "ƀ"), (0x244, "ʉ"), (0x245, "ʌ"), (0x2B0, "h"), (0x2B1, "ɦ"),
    (0x2B2, "j"), (0x2B3, "r"), (0x2B4, "ɹ"), (0x2B5, "ɻ"), (0x2B6, "ʁ"), (0x2B7, "w"),
    (0x2B8, "y"), (0x2D8, "\x20\u0306"), (0x2D9, "\x20\u0307"), (0x2DA, "\x20\u030a"),
    (0x2DB, "\x20\u0328"), (0x2DC, "\x20\u0303"), (0x2DD, "\x20\u030b"), (0x2E0, "ɣ"), (0x2E1, "l"),
    (0x2E2, "s"), (0x2E3, "x"), (0x2E4, "ʕ"), (0x340, "\u0300"), (0x341, "\u0301"),
    (0x343, "\u0313"), (0x344, "\u0308\u0301"), (0x345, "ι"), (0x374, "ʹ"), (0x37A, "\x20\u0345"),
    (0x37E, ";"), (0x37F, "ϳ"), (0x384, "\x20\u0301"), (0x385, "\x20\u0308\u0301"), (0x386, "ά"),
    (0x387, "·"), (0x38C, "ό"), (0x38E, "ύ"), (0x38F, "ώ"), (0x3CF, "ϗ"), (0x3D0, "β"),
    (0x3D1, "θ"), (0x3D2, "υ"), (0x3D3, "ύ"), (0x3D4, "ϋ"), (0x3D5, "φ"), (0x3D6, "π"),
    (0x3F0, "κ"), (0x3F1, "ρ"), (0x3F2, "σ"), (0x3F4, "θ"), (0x3F5, "ε"), (0x3F9, "σ"),
    (0x587, "եւ"), (0xF0C, "་"), (0x10C7, "ⴧ"), (0x10CD, "ⴭ"), (0x10FC, "ნ"), (0x1C80, "в"),
    (0x1C81, "д"), (0x1C82, "о"), (0x1C83, "с"), (0x1C84, "т"), (0x1C85, "т"), (0x1C86, "ъ"),
    (0x1C87, "ѣ"), (0x1C88, "ꙋ"), (0x1D2C, "a"), (0x1D2D, "æ"), (0x1D2E, "b"), (0x1D30, "d"),
    (0x1D31, "e"), (0x1D32, "ǝ"), (0x1D3C, "o"), (0x1D3D, "ȣ"), (0x1D3E, "p"), (0x1D3F, "r"),
    (0x1D40, "t"), (0x1D41, "u"), (0x1D42, "w"), (0x1D43, "a"), (0x1D44, "ɐ"), (0x1D45, "ɑ"),
    (0x1D46, "ᴂ"), (0x1D47, "b"), (0x1D48, "d"), (0x1D49, "e"), (0x1D4A, "ə"), (0x1D4B, "ɛ"),
    (0x1D4C, "ɜ"), (0x1D4D, "g"), (0x1D4F, "k"), (0x1D50, "m"), (0x1D51, "ŋ"), (0x1D52, "o"),
    (0x1D53, "ɔ"), (0x1D54, "ᴖ"), (0x1D55, "ᴗ"), (0x1D56, "p"), (0x1D57, "t"), (0x1D58, "u"),
    (0x1D59, "ᴝ"), (0x1D5A, "ɯ"), (0x1D5B, "v"), (0x1D5C, "ᴥ"), (0x1D60, "φ"), (0x1D61, "χ"),
    (0x1D62, "i"), (0x1D63, "r"), (0x1D64, "u"), (0x1D65, "v"), (0x1D66, "β"), (0x1D67, "γ"),
    (0x1D68, "ρ"), (0x1D69, "φ"), (0x1D6A, "χ"), (0x1D78, "н"), (0x1D9B, "ɒ"), (0x1D9C, "c"),
    (0x1D9D, "ɕ"), (0x1D9E, "ð"), (0x1D9F, "ɜ"), (0x1DA0, "f"), (0x1DA1, "ɟ"), (0x1DA2, "ɡ"),
    (0x1DA3, "ɥ"), (0x1DA7, "ᵻ"), (0x1DA8, "ʝ"), (0x1DA9, "ɭ"), (0x1DAA, "ᶅ"), (0x1DAB, "ʟ"),
    (0x1DAC, "ɱ"), (0x1DAD, "ɰ"), (0x1DB2, "ɸ"), (0x1DB3, "ʂ"), (0x1DB4, "ʃ"), (0x1DB5, "ƫ"),
    (0x1DB6, "ʉ"), (0x1DB7, "ʊ"), (0x1DB8, "ᴜ"), (0x1DB9, "ʋ"), (0x1DBA, "ʌ"), (0x1DBB, "z"),
    (0x1DBF, "θ"), (0x1E9A, "aʾ"), (0x1E9B, "ṡ"), (0x1E9E, "ß"), (0x1F59, "ὑ"), (0x1F5B, "ὓ"),
    (0x1F5D, "ὕ"), (0x1F5F, "ὗ"), (0x1F71, "ά"), (0x1F73, "έ"), (0x1F75, "ή"), (0x1F77, "ί"),
    (0x1F79, "ό"), (0x1F7B, "ύ"), (0x1F7D, "ώ"), (0x1F80, "ἀι"), (0x1F81, "ἁι"), (0x1F82, "ἂι"),
    (0x1F83, "ἃι"), (0x1F84, "ἄι"), (0x1F85, "ἅι"), (0x1F86, "ἆι"), (0x1F87, "ἇι"), (0x1F88, "ἀι"),
    (0x1F89, "ἁι"), (0x1F8A, "ἂι"), (0x1F8B, "ἃι"), (0x1F8C, "ἄι"), (0x1F8D, "ἅι"), (0x1F8E, "ἆι"),
    (0x1F8F, "ἇι"), (0x1F90, "ἠι"), (0x1F91, "ἡι"), (0x1F92, "ἢι"), (0x1F93, "ἣι"), (0x1F94, "ἤι"),
    (0x1F95, "ἥι"), (0x1F96, "ἦι"), (0x1F97, "ἧι"), (0x1F98, "ἠι"), (0x1F99, "ἡι"), (0x1F9A, "ἢι"),
    (0x1F9B, "ἣι"), (0x1F9C, "ἤι"), (0x1F9D, "ἥι"), (0x1F9E, "ἦι"), (0x1F9F, "ἧι"), (0x1FA0, "ὠι"),
    (0x1FA1, "ὡι"), (0x1FA2, "ὢι"), (0x1FA3, "ὣι"), (0x1FA4, "ὤι"), (0x1FA5, "ὥι"), (0x1FA6, "ὦι"),
    (0x1FA7, "ὧι"), (0x1FA8, "ὠι"), (0x1FA9, "ὡι"), (0x1FAA, "ὢι"), (0x1FAB, "ὣι"), (0x1FAC, "ὤι"),
    (0x1FAD, "ὥι"), (0x1FAE, "ὦι"), (0x1FAF, "ὧι"), (0x1FB2, "ὰι"), (0x1FB3, "αι"), (0x1FB4, "άι"),
    (0x1FB7, "ᾶι"), (0x1FB8, "ᾰ"), (0x1FB9, "ᾱ"), (0x1FBA, "ὰ"), (0x1FBB, "ά"), (0x1FBC, "αι"),
    (0x1FBD, "\x20\u0313"), (0x1FBE, "ι"), (0x1FBF, "\x20\u0313"), (0x1FC0, "\x20\u0342"),
    (0x1FC1, "\x20\u0308\u0342"), (0x1FC2, "ὴι"), (0x1FC3, "ηι"), (0x1FC4, "ήι"), (0x1FC7, "ῆι"),
    (0x1FC8, "ὲ"), (0x1FC9, "έ"), (0x1FCA, "ὴ"), (0x1FCB, "ή"), (0x1FCC, "ηι"),
    (0x1FCD, "\x20\u0313\u0300"), (0x1FCE, "\x20\u0313\u0301"), (0x1FCF, "\x20\u0313\u0342"),
    (0x1FD3, "ΐ"), (0x1FD8, "ῐ"), (0x1FD9, "ῑ"), (0x1FDA, "ὶ"), (0x1FDB, "ί"),
    (0x1FDD, "\x20\u0314\u0300"), (0x1FDE, "\x20\u0314\u0301"), (0x1FDF, "\x20\u0314\u0342"),
    (0x1FE3, "ΰ"), (0x1FE8, "ῠ"), (0x1FE9, "ῡ"), (0x1FEA, "ὺ"), (0x1FEB, "ύ"), (0x1FEC, "ῥ"),
    (0x1FED, "\x20\u0308\u0300"), (0x1FEE, "\x20\u0308\u0301"), (0x1FEF, "\x60"), (0x1FF2, "ὼι"),
    (0x1FF3, "ωι"), (0x1FF4, "ώι"), (0x1FF7, "ῶι"), (0x1FF8, "ὸ"), (0x1FF9, "ό"), (0x1FFA, "ὼ"),
    (0x1FFB, "ώ"), (0x1FFC, "ωι"), (0x1FFD, "\x20\u0301"), (0x1FFE, "\x20\u0314"), (0x2000, "\x20"),
    (0x2001, "\x20"), (0x2002, "\x20"), (0x2003, "\x20"), (0x2004, "\x20"), (0x2005, "\x20"),
    (0x2006, "\x20"), (0x2007, "\x20"), (0x2008, "\x20"), (0x2009, "\x20"), (0x200A, "\x20"),
    (0x2011, "‐"), (0x2017, "\x20\u0333"), (0x202F, "\x20"), (0x2033, "′′"), (0x2034, "′′′"),
    (0x2036, "‵‵"), (0x2037, "‵‵‵"), (0x203C, "!!"), (0x203E, "\x20\u0305"), (0x2047, "??"),
    (0x2048, "?!"), (0x2049, "!?"), (0x2057, "′′′′"), (0x205F, "\x20"), (0x2070, "0"),
    (0x2071, "i"), (0x207A, "+"), (0x207B, "−"), (0x207C, "="), (0x207D, "("), (0x207E, ")"),
    (0x207F, "n"), (0x208A, "+"), (0x208B, "−"), (0x208C, "="), (0x208D, "("), (0x208E, ")"),
    (0x2090, "a"), (0x2091, "e"), (0x2092, "o"), (0x2093, "x"), (0x2094, "ə"), (0x2095, "h"),
    (0x209A, "p"), (0x209B, "s"), (0x209C, "t"), (0x20A8, "rs"), (0x2100, "a/c"), (0x2101, "a/s"),
    (0x2102, "c"), (0x2103, "°c"), (0x2105, "c/o"), (0x2106, "c/u"), (0x2107, "ɛ"), (0x2109, "°f"),
    (0x210A, "g"), (0x210B, "h"), (0x210C, "h"), (0x210D, "h"), (0x210E, "h"), (0x210F, "ħ"),
    (0x2110, "i"), (0x2111, "i"), (0x2112, "l"), (0x2113, "l"), (0x2115, "n"), (0x2116, "no"),
    (0x211C, "r"), (0x211D, "r"), (0x2120, "sm"), (0x2121, "tel"), (0x2122, "tm"), (0x2124, "z"),
    (0x2126, "ω"), (0x2128, "z"), (0x212A, "k"), (0x212B, "å"), (0x212C, "b"), (0x212D, "c"),
    (0x212F, "e"), (0x2130, "e"), (0x2131, "f"), (0x2133, "m"), (0x2134, "o"), (0x2139, "i"),
    (0x213B, "fax"), (0x213C, "π"), (0x213D, "γ"), (0x213E, "γ"), (0x213F, "π"), (0x2140, "∑"),
    (0x2145, "d"), (0x2146, "d"), (0x2147, "e"), (0x2148, "i"), (0x2149, "j"), (0x2150, "1⁄7"),
    (0x2151, "1⁄9"), (0x2152, "1⁄10"), (0x2153, "1⁄3"), (0x2154, "2⁄3"), (0x2155, "1⁄5"),
    (0x2156, "2⁄5"), (0x2157, "3⁄5"), (0x2158, "4⁄5"), (0x2159, "1⁄6"), (0x215A, "5⁄6"),
    (0x215B, "1⁄8"), (0x215C, "3⁄8"), (0x215D, "5⁄8"), (0x215E, "7⁄8"), (0x215F, "1⁄"),
    (0x2160, "i"), (0x2161, "ii"), (0x2162, "iii"), (0x2163, "iv"), (0x2164, "v"), (0x2165, "vi"),
    (0x2166, "vii"), (0x2167, "viii"), (0x2168, "ix"), (0x2169, "x"), (0x216A, "xi"),
    (0x216B, "xii"), (0x216C, "l"), (0x216D, "c"), (0x216E, "d"), (0x216F, "m"), (0x2170, "i"),
    (0x2171, "ii"), (0x2172, "iii"), (0x2173, "iv"), (0x2174, "v"), (0x2175, "vi"), (0x2176, "vii"),
    (0x2177, "viii"), (0x2178, "ix"), (0x2179, "x"), (0x217A, "xi"), (0x217B, "xii"), (0x217C, "l"),
    (0x217D, "c"), (0x217E, "d"), (0x217F, "m"), (0x2189, "0⁄3"), (0x222C, "∫∫"), (0x222D, "∫∫∫"),
    (0x222F, "∮∮"), (0x2230, "∮∮∮"), (0x2329, "〈"), (0x232A, "〉"), (0x2469, "10"), (0x246A, "11"),
    (0x246B, "12"), (0x246C, "13"), (0x246D, "14"), (0x246E, "15"), (0x246F, "16"), (0x2470, "17"),
    (0x2471, "18"), (0x2472, "19"), (0x2473, "20"), (0x2474, "(1)"), (0x2475, "(2)"),
    (0x2476, "(3)"), (0x2477, "(4)"), (0x2478, "(5)"), (0x2479, "(6)"), (0x247A, "(7)"),
    (0x247B, "(8)"), (0x247C, "(9)"), (0x247D, "(10)"), (0x247E, "(11)"), (0x247F, "(12)"),
    (0x2480, "(13)"), (0x2481, "(14)"), (0x2482, "(15)"), (0x2483, "(16)"), (0x2484, "(17)"),
    (0x2485, "(18)"), (0x2486, "(19)"), (0x2487, "(20)"), (0x249C, "(a)"), (0x249D, "(b)"),
    (0x249E, "(c)"), (0x249F, "(d)"), (0x24A0, "(e)"), (0x24A1, "(f)"), (0x24A2, "(g)"),
    (0x24A3, "(h)"), (0x24A4, "(i)"), (0x24A5, "(j)"), (0x24A6, "(k)"), (0x24A7, "(l)"),
    (0x24A8, "(m)"), (0x24A9, "(n)"), (0x24AA, "(o)"), (0x24AB, "(p)"), (0x24AC, "(q)"),
    (0x24AD, "(r)"), (0x24AE, "(s)"), (0x24AF, "(t)"), (0x24B0, "(u)"), (0x24B1, "(v)"),
    (0x24B2, "(w)"), (0x24B3, "(x)"), (0x24B4, "(y)"), (0x24B5, "(z)"), (0x24EA, "0"),
    (0x2C62, "ɫ"), (0x2C63, "ᵽ"), (0x2C64, "ɽ"), (0x2C6D, "ɑ"), (0x2C6E, "ɱ"), (0x2C6F, "ɐ"),
    (0x2C70, "ɒ"), (0x2C7C, "j"), (0x2C7D, "v"), (0x2C7E, "ȿ"), (0x2C7F, "ɀ"), (0xA69C, "ъ"),
    (0xA69D, "ь"), (0xA770, "ꝯ"), (0xA77D, "ᵹ"), (0xA78D, "ɥ"), (0xA7AA, "ɦ"), (0xA7AB, "ɜ"),
    (0xA7AC, "ɡ"), (0xA7AD, "ɬ"), (0xA7AE, "ɪ"), (0xA7B0, "ʞ"), (0xA7B1, "ʇ"), (0xA7B2, "ʝ"),
    (0xA7B3, "ꭓ"), (0xA7C4, "ꞔ"), (0xA7C5, "ʂ"), (0xA7C6, "ᶎ"), (0xA7F2, "c"), (0xA7F3, "f"),
    (0xA7F4, "q"), (0xA7F8, "ħ"), (0xA7F9, "œ"), (0xFB00, "ff"), (0xFB01, "fi"), (0xFB02, "fl"),
    (0xFB03, "ffi"), (0xFB04, "ffl"), (0xFB05, "st"), (0xFB06, "st"), (0xFF5F, "⦅"), (0xFF60, "⦆"),
    (0xFF62, "「"), (0xFF63, "」"), (0xFF64, "、"), (0xFF65, "・"), (0xFF66, "ヲ"), (0xFF67, "ァ"),
    (0xFF68, "ィ"), (0xFF69, "ゥ"), (0xFF6A, "ェ"), (0xFF6B, "ォ"), (0xFF6C, "ャ"), (0xFF6D, "ュ"),
    (0xFF6E, "ョ"), (0xFF6F, "ッ"), (0xFF70, "ー"), (0xFF71, "ア"), (0xFF72, "イ"), (0xFF73, "ウ"),
    (0xFF74, "エ"), (0xFF75, "オ"), (0xFF76, "カ"), (0xFF77, "キ"), (0xFF78, "ク"), (0xFF79, "ケ"),
    (0xFF7A, "コ"), (0xFF7B, "サ"), (0xFF7C, "シ"), (0xFF7D, "ス"), (0xFF7E, "セ"), (0xFF7F, "ソ"),
    (0xFF80, "タ"), (0xFF81, "チ"), (0xFF82, "ツ"), (0xFF83, "テ"), (0xFF84, "ト"), (0xFF8B, "ヒ"),
    (0xFF8C, "フ"), (0xFF8D, "ヘ"), (0xFF8E, "ホ"), (0xFF94, "ヤ"), (0xFF95, "ユ"), (0xFF9C, "ワ"),
    (0xFF9D, "ン"), (0xFF9E, "\u3099"), (0xFF9F, "\u309a"), (0xFFA1, "ᄀ"), (0xFFA2, "ᄁ"),
    (0xFFA3, "ᆪ"), (0xFFA4, "ᄂ"), (0xFFA5, "ᆬ"), (0xFFA6, "ᆭ"), (0xFFB0, "ᄚ"), (0xFFB4, "ᄡ"),
    (0xFFE0, "¢"), (0xFFE1, "£"), (0xFFE2, "¬"), (0xFFE3, "\x20\u0304"), (0xFFE4, "¦"),
    (0xFFE5, "¥"), (0xFFE6, "₩"), (0xFFE8, "│"), (0xFFED, "■"), (0xFFEE, "○"), (0x1D49C, "a"),
    (0x1D49E, "c"), (0x1D49F, "d"), (0x1D4A2, "g"), (0x1D4A5, "j"), (0x1D4A6, "k"), (0x1D4BB, "f"),
    (0x1D504, "a"), (0x1D505, "b"), (0x1D538, "a"), (0x1D539, "b"), (0x1D546, "o")]

/-- Runs of code points that stand for nothing. -/
def silentRuns : List (Nat × Nat) :=
  [(0xAD, 0xAD), (0x34F, 0x34F), (0x180B, 0x180D), (0x180F, 0x180F), (0x200B, 0x200B),
    (0x2060, 0x2060), (0x2064, 0x2064), (0xFE00, 0xFE0F), (0xFEFF, 0xFEFF), (0x1BCA0, 0x1BCA3),
    (0xE0100, 0xE01EF)]

def fullStops : List Nat := [0x3002, 0xFF0E, 0xFF61]

/-- What one character of a name stands for. -/
def foldChar (c : Char) : List Char :=
  let n := c.toNat
  if silentRuns.any fun r => r.1 ≤ n && n ≤ r.2 then []
  else if fullStops.contains n then ['.']
  else
    match foldRuns.find? fun r => r.1 ≤ n && n ≤ r.2.1 with
    | some (first, _, target) => [Char.ofNat (target + (n - first))]
    | none =>
      if foldPairs.any fun r => r.1 ≤ n && n ≤ r.2 && (n - r.1) % 2 = 0 then [Char.ofNat (n + 1)]
      else (foldSingles.lookup n).elim [c] String.toList

def foldName (cs : List Char) : List Char := cs.flatMap foldChar

end Intake.Text
