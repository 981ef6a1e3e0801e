import AccessDecision.Unicode.CodeSet

/-
  The classes by which text is broken

  Text is broken into grapheme clusters, words and sentences by classes of
  characters. A character of no class here belongs to the class of all others,
  which has no set of its own.
-/

namespace AccessDecision.Unicode

/-- For breaking text into grapheme clusters, the class CR. -/
def graphemeBreakCR : CodeSet where
  categories := []
  added := [(0xD, 0xD)]
  removed := []

/-- For breaking text into grapheme clusters, the class Control. -/
def graphemeBreakControl : CodeSet where
  categories := [.cc]
  added := [
    (0xAD, 0xAD), (0x61C, 0x61C), (0x180E, 0x180E), (0x200B, 0x200B), (0x200E, 0x200F),
    (0x2028, 0x202E), (0x2060, 0x206F), (0xFEFF, 0xFEFF), (0xFFF0, 0xFFFB), (0x13430, 0x1343F),
    (0x1BCA0, 0x1BCA3), (0x1D173, 0x1D17A), (0xE0000, 0xE001F), (0xE0080, 0xE00FF),
    (0xE01F0, 0xE0FFF)]
  removed := [(0xA, 0xA), (0xD, 0xD)]

/-- For breaking text into grapheme clusters, the class Extend. -/
def graphemeBreakExtend : CodeSet where
  categories := [.mn, .me]
  added := [
    (0x9BE, 0x9BE), (0x9D7, 0x9D7), (0xB3E, 0xB3E), (0xB57, 0xB57), (0xBBE, 0xBBE), (0xBD7, 0xBD7),
    (0xCC0, 0xCC0), (0xCC2, 0xCC2), (0xCC7, 0xCC8), (0xCCA, 0xCCB), (0xCD5, 0xCD6), (0xD3E, 0xD3E),
    (0xD57, 0xD57), (0xDCF, 0xDCF), (0xDDF, 0xDDF), (0x1715, 0x1715), (0x1734, 0x1734),
    (0x1B35, 0x1B35), (0x1B3B, 0x1B3B), (0x1B3D, 0x1B3D), (0x1B43, 0x1B44), (0x1BAA, 0x1BAA),
    (0x1BF2, 0x1BF3), (0x200C, 0x200C), (0x302E, 0x302F), (0xA953, 0xA953), (0xA9C0, 0xA9C0),
    (0xFF9E, 0xFF9F), (0x111C0, 0x111C0), (0x11235, 0x11235), (0x1133E, 0x1133E),
    (0x1134D, 0x1134D), (0x11357, 0x11357), (0x113B8, 0x113B8), (0x113C2, 0x113C2),
    (0x113C5, 0x113C5), (0x113C7, 0x113C9), (0x113CF, 0x113CF), (0x114B0, 0x114B0),
    (0x114BD, 0x114BD), (0x115AF, 0x115AF), (0x116B6, 0x116B6), (0x11930, 0x11930),
    (0x1193D, 0x1193D), (0x11F41, 0x11F41), (0x16FF0, 0x16FF1), (0x1D165, 0x1D166),
    (0x1D16D, 0x1D172), (0x1F3FB, 0x1F3FF), (0xE0020, 0xE007F)]
  removed := []

/-- For breaking text into grapheme clusters, the class L. -/
def graphemeBreakL : CodeSet where
  categories := []
  added := [(0x1100, 0x115F), (0xA960, 0xA97C)]
  removed := []

/-- For breaking text into grapheme clusters, the class LF. -/
def graphemeBreakLF : CodeSet where
  categories := []
  added := [(0xA, 0xA)]
  removed := []

/-- For breaking text into grapheme clusters, the class LV: the Hangul syllables without a final
consonant, one in 28. -/
def graphemeBreakLV : CodeSet :=
  .ofRanges ((List.range 399).map fun i => (0xAC00 + 28 * i, 0xAC00 + 28 * i))

/-- For breaking text into grapheme clusters, the class LVT: the Hangul syllables with a final
consonant. -/
def graphemeBreakLVT : CodeSet :=
  .ofRanges ((List.range 399).map fun i => (0xAC01 + 28 * i, 0xAC1B + 28 * i))

/-- For breaking text into grapheme clusters, the class Prepend. -/
def graphemeBreakPrepend : CodeSet where
  categories := []
  added := [
    (0x600, 0x605), (0x6DD, 0x6DD), (0x70F, 0x70F), (0x890, 0x891), (0x8E2, 0x8E2), (0xD4E, 0xD4E),
    (0x110BD, 0x110BD), (0x110CD, 0x110CD), (0x111C2, 0x111C3), (0x113D1, 0x113D1),
    (0x1193F, 0x1193F), (0x11941, 0x11941), (0x11A3A, 0x11A3A), (0x11A84, 0x11A89),
    (0x11D46, 0x11D46), (0x11F02, 0x11F02)]
  removed := []

/-- For breaking text into grapheme clusters, the class Regional Indicator. -/
def graphemeBreakRegionalIndicator : CodeSet where
  categories := []
  added := [(0x1F1E6, 0x1F1FF)]
  removed := []

/-- For breaking text into grapheme clusters, the class SpacingMark. -/
def graphemeBreakSpacingMark : CodeSet where
  categories := [.mc]
  added := [(0xE33, 0xE33), (0xEB3, 0xEB3)]
  removed := [
    (0x9BE, 0x9BE), (0x9D7, 0x9D7), (0xB3E, 0xB3E), (0xB57, 0xB57), (0xBBE, 0xBBE), (0xBD7, 0xBD7),
    (0xCC0, 0xCC0), (0xCC2, 0xCC2), (0xCC7, 0xCC8), (0xCCA, 0xCCB), (0xCD5, 0xCD6), (0xD3E, 0xD3E),
    (0xD57, 0xD57), (0xDCF, 0xDCF), (0xDDF, 0xDDF), (0x102B, 0x102C), (0x1038, 0x1038),
    (0x1062, 0x1064), (0x1067, 0x106D), (0x1083, 0x1083), (0x1087, 0x108C), (0x108F, 0x108F),
    (0x109A, 0x109C), (0x1715, 0x1715), (0x1734, 0x1734), (0x1A61, 0x1A61), (0x1A63, 0x1A64),
    (0x1B35, 0x1B35), (0x1B3B, 0x1B3B), (0x1B3D, 0x1B3D), (0x1B43, 0x1B44), (0x1BAA, 0x1BAA),
    (0x1BF2, 0x1BF3), (0x302E, 0x302F), (0xA953, 0xA953), (0xA9C0, 0xA9C0), (0xAA7B, 0xAA7B),
    (0xAA7D, 0xAA7D), (0x111C0, 0x111C0), (0x11235, 0x11235), (0x1133E, 0x1133E),
    (0x1134D, 0x1134D), (0x11357, 0x11357), (0x113B8, 0x113B8), (0x113C2, 0x113C2),
    (0x113C5, 0x113C5), (0x113C7, 0x113C9), (0x113CF, 0x113CF), (0x114B0, 0x114B0),
    (0x114BD, 0x114BD), (0x115AF, 0x115AF), (0x116B6, 0x116B6), (0x11720, 0x11721),
    (0x11930, 0x11930), (0x1193D, 0x1193D), (0x11F41, 0x11F41), (0x16FF0, 0x16FF1),
    (0x1D165, 0x1D166), (0x1D16D, 0x1D172)]

/-- For breaking text into grapheme clusters, the class T. -/
def graphemeBreakT : CodeSet where
  categories := []
  added := [(0x11A8, 0x11FF), (0xD7CB, 0xD7FB)]
  removed := []

/-- For breaking text into grapheme clusters, the class V. -/
def graphemeBreakV : CodeSet where
  categories := []
  added := [
    (0x1160, 0x11A7), (0xD7B0, 0xD7C6), (0x16D63, 0x16D63), (0x16D67, 0x16D6A)]
  removed := []

/-- For breaking text into grapheme clusters, the class ZWJ. -/
def graphemeBreakZWJ : CodeSet where
  categories := []
  added := [(0x200D, 0x200D)]
  removed := []

/-- Every class for breaking text into grapheme clusters, with its names. -/
def graphemeBreaks : List (List String × CodeSet) := [
  (["cr"], graphemeBreakCR),
  (["cn", "control"], graphemeBreakControl),
  (["ex", "extend"], graphemeBreakExtend),
  (["l"], graphemeBreakL),
  (["lf"], graphemeBreakLF),
  (["lv"], graphemeBreakLV),
  (["lvt"], graphemeBreakLVT),
  (["pp", "prepend"], graphemeBreakPrepend),
  (["ri", "regionalindicator"], graphemeBreakRegionalIndicator),
  (["sm", "spacingmark"], graphemeBreakSpacingMark),
  (["t"], graphemeBreakT),
  (["v"], graphemeBreakV),
  (["zwj"], graphemeBreakZWJ)]

/-- For breaking text into words, the class ALetter. -/
def wordBreakALetter : CodeSet where
  categories := [.lm, .lo, .nl]
  added := [
    (0x41, 0x5A), (0x61, 0x7A), (0xB5, 0xB5), (0xC0, 0xD6), (0xD8, 0xF6), (0xF8, 0x1BA),
    (0x1BC, 0x1BF), (0x1C4, 0x293), (0x295, 0x2AF), (0x2C2, 0x2C5), (0x2D2, 0x2D7), (0x2DE, 0x2DF),
    (0x2E5, 0x2EB), (0x2ED, 0x2ED), (0x2EF, 0x2FF), (0x370, 0x373), (0x376, 0x377), (0x37B, 0x37D),
    (0x37F, 0x37F), (0x386, 0x386), (0x388, 0x38A), (0x38C, 0x38C), (0x38E, 0x3A1), (0x3A3, 0x3F5),
    (0x3F7, 0x481), (0x48A, 0x52F), (0x531, 0x556), (0x55A, 0x55C), (0x55E, 0x55E), (0x560, 0x588),
    (0x58A, 0x58A), (0x5F3, 0x5F3), (0x70F, 0x70F), (0x10A0, 0x10C5), (0x10C7, 0x10C7),
    (0x10CD, 0x10CD), (0x10D0, 0x10FA), (0x10FD, 0x10FF), (0x13A0, 0x13F5), (0x13F8, 0x13FD),
    (0x1C80, 0x1C8A), (0x1C90, 0x1CBA), (0x1CBD, 0x1CBF), (0x1D00, 0x1D2B), (0x1D6B, 0x1D77),
    (0x1D79, 0x1D9A), (0x1E00, 0x1F15), (0x1F18, 0x1F1D), (0x1F20, 0x1F45), (0x1F48, 0x1F4D),
    (0x1F50, 0x1F57), (0x1F59, 0x1F59), (0x1F5B, 0x1F5B), (0x1F5D, 0x1F5D), (0x1F5F, 0x1F7D),
    (0x1F80, 0x1FB4), (0x1FB6, 0x1FBC), (0x1FBE, 0x1FBE), (0x1FC2, 0x1FC4), (0x1FC6, 0x1FCC),
    (0x1FD0, 0x1FD3), (0x1FD6, 0x1FDB), (0x1FE0, 0x1FEC), (0x1FF2, 0x1FF4), (0x1FF6, 0x1FFC),
    (0x2102, 0x2102), (0x2107, 0x2107), (0x210A, 0x2113), (0x2115, 0x2115), (0x2119, 0x211D),
    (0x2124, 0x2124), (0x2126, 0x2126), (0x2128, 0x2128), (0x212A, 0x212D), (0x212F, 0x2134),
    (0x2139, 0x2139), (0x213C, 0x213F), (0x2145, 0x2149), (0x214E, 0x214E), (0x2183, 0x2184),
    (0x24B6, 0x24E9), (0x2C00, 0x2C7B), (0x2C7E, 0x2CE4), (0x2CEB, 0x2CEE), (0x2CF2, 0x2CF3),
    (0x2D00, 0x2D25), (0x2D27, 0x2D27), (0x2D2D, 0x2D2D), (0xA640, 0xA66D), (0xA680, 0xA69B),
    (0xA708, 0xA716), (0xA720, 0xA76F), (0xA771, 0xA787), (0xA789, 0xA78E), (0xA790, 0xA7CD),
    (0xA7D0, 0xA7D1), (0xA7D3, 0xA7D3), (0xA7D5, 0xA7DC), (0xA7F5, 0xA7F6), (0xA7FA, 0xA7FA),
    (0xAB30, 0xAB5B), (0xAB60, 0xAB68), (0xAB70, 0xABBF), (0xFB00, 0xFB06), (0xFB13, 0xFB17),
    (0xFF21, 0xFF3A), (0xFF41, 0xFF5A), (0x10400, 0x1044F), (0x104B0, 0x104D3), (0x104D8, 0x104FB),
    (0x10570, 0x1057A), (0x1057C, 0x1058A), (0x1058C, 0x10592), (0x10594, 0x10595),
    (0x10597, 0x105A1), (0x105A3, 0x105B1), (0x105B3, 0x105B9), (0x105BB, 0x105BC),
    (0x10C80, 0x10CB2), (0x10CC0, 0x10CF2), (0x10D50, 0x10D65), (0x10D70, 0x10D85),
    (0x118A0, 0x118DF), (0x16E40, 0x16E7F), (0x1D400, 0x1D454), (0x1D456, 0x1D49C),
    (0x1D49E, 0x1D49F), (0x1D4A2, 0x1D4A2), (0x1D4A5, 0x1D4A6), (0x1D4A9, 0x1D4AC),
    (0x1D4AE, 0x1D4B9), (0x1D4BB, 0x1D4BB), (0x1D4BD, 0x1D4C3), (0x1D4C5, 0x1D505),
    (0x1D507, 0x1D50A), (0x1D50D, 0x1D514), (0x1D516, 0x1D51C), (0x1D51E, 0x1D539),
    (0x1D53B, 0x1D53E), (0x1D540, 0x1D544), (0x1D546, 0x1D546), (0x1D54A, 0x1D550),
    (0x1D552, 0x1D6A5), (0x1D6A8, 0x1D6C0), (0x1D6C2, 0x1D6DA), (0x1D6DC, 0x1D6FA),
    (0x1D6FC, 0x1D714), (0x1D716, 0x1D734), (0x1D736, 0x1D74E), (0x1D750, 0x1D76E),
    (0x1D770, 0x1D788), (0x1D78A, 0x1D7A8), (0x1D7AA, 0x1D7C2), (0x1D7C4, 0x1D7CB),
    (0x1DF00, 0x1DF09), (0x1DF0B, 0x1DF1E), (0x1DF25, 0x1DF2A), (0x1E900, 0x1E943),
    (0x1F130, 0x1F149), (0x1F150, 0x1F169), (0x1F170, 0x1F189)]
  removed := [
    (0x5D0, 0x5EA), (0x5EF, 0x5F2), (0xE01, 0xE30), (0xE32, 0xE33), (0xE40, 0xE46), (0xE81, 0xE82),
    (0xE84, 0xE84), (0xE86, 0xE8A), (0xE8C, 0xEA3), (0xEA5, 0xEA5), (0xEA7, 0xEB0), (0xEB2, 0xEB3),
    (0xEBD, 0xEBD), (0xEC0, 0xEC4), (0xEC6, 0xEC6), (0xEDC, 0xEDF), (0x1000, 0x102A),
    (0x103F, 0x103F), (0x1050, 0x1055), (0x105A, 0x105D), (0x1061, 0x1061), (0x1065, 0x1066),
    (0x106E, 0x1070), (0x1075, 0x1081), (0x108E, 0x108E), (0x1780, 0x17B3), (0x17D7, 0x17D7),
    (0x17DC, 0x17DC), (0x1950, 0x196D), (0x1970, 0x1974), (0x1980, 0x19AB), (0x19B0, 0x19C9),
    (0x1A20, 0x1A54), (0x1AA7, 0x1AA7), (0x3006, 0x3007), (0x3021, 0x3029), (0x3031, 0x3035),
    (0x3038, 0x303A), (0x3041, 0x3096), (0x309D, 0x309F), (0x30A1, 0x30FA), (0x30FC, 0x30FF),
    (0x31F0, 0x31FF), (0x3400, 0x4DBF), (0x4E00, 0x9FFF), (0xA9E0, 0xA9E4), (0xA9E6, 0xA9EF),
    (0xA9FA, 0xA9FE), (0xAA60, 0xAA76), (0xAA7A, 0xAA7A), (0xAA7E, 0xAAAF), (0xAAB1, 0xAAB1),
    (0xAAB5, 0xAAB6), (0xAAB9, 0xAABD), (0xAAC0, 0xAAC0), (0xAAC2, 0xAAC2), (0xAADB, 0xAADD),
    (0xF900, 0xFA6D), (0xFA70, 0xFAD9), (0xFB1D, 0xFB1D), (0xFB1F, 0xFB28), (0xFB2A, 0xFB36),
    (0xFB38, 0xFB3C), (0xFB3E, 0xFB3E), (0xFB40, 0xFB41), (0xFB43, 0xFB44), (0xFB46, 0xFB4F),
    (0xFF66, 0xFF9F), (0x11700, 0x1171A), (0x11740, 0x11746), (0x17000, 0x187F7),
    (0x18800, 0x18CD5), (0x18CFF, 0x18D08), (0x1AFF0, 0x1AFF3), (0x1AFF5, 0x1AFFB),
    (0x1AFFD, 0x1AFFE), (0x1B000, 0x1B122), (0x1B132, 0x1B132), (0x1B150, 0x1B152),
    (0x1B155, 0x1B155), (0x1B164, 0x1B167), (0x1B170, 0x1B2FB), (0x20000, 0x2A6DF),
    (0x2A700, 0x2B739), (0x2B740, 0x2B81D), (0x2B820, 0x2CEA1), (0x2CEB0, 0x2EBE0),
    (0x2EBF0, 0x2EE5D), (0x2F800, 0x2FA1D), (0x30000, 0x3134A), (0x31350, 0x323AF)]

/-- For breaking text into words, the class CR. -/
def wordBreakCR : CodeSet where
  categories := []
  added := [(0xD, 0xD)]
  removed := []

/-- For breaking text into words, the class Double Quote. -/
def wordBreakDoubleQuote : CodeSet where
  categories := []
  added := [(0x22, 0x22)]
  removed := []

/-- For breaking text into words, the class Extend. -/
def wordBreakExtend : CodeSet where
  categories := [.mn, .mc, .me]
  added := [
    (0x200C, 0x200C), (0xFF9E, 0xFF9F), (0x1F3FB, 0x1F3FF), (0xE0020, 0xE007F)]
  removed := []

/-- For breaking text into words, the class ExtendNumLet. -/
def wordBreakExtendNumLet : CodeSet where
  categories := [.pc]
  added := [(0x202F, 0x202F)]
  removed := []

/-- For breaking text into words, the class Format. -/
def wordBreakFormat : CodeSet where
  categories := [.cf]
  added := []
  removed := [
    (0x600, 0x605), (0x6DD, 0x6DD), (0x70F, 0x70F), (0x890, 0x891), (0x8E2, 0x8E2),
    (0x200B, 0x200D), (0x110BD, 0x110BD), (0x110CD, 0x110CD), (0xE0020, 0xE007F)]

/-- For breaking text into words, the class Hebrew Letter. -/
def wordBreakHebrewLetter : CodeSet where
  categories := []
  added := [
    (0x5D0, 0x5EA), (0x5EF, 0x5F2), (0xFB1D, 0xFB1D), (0xFB1F, 0xFB28), (0xFB2A, 0xFB36),
    (0xFB38, 0xFB3C), (0xFB3E, 0xFB3E), (0xFB40, 0xFB41), (0xFB43, 0xFB44), (0xFB46, 0xFB4F)]
  removed := []

/-- For breaking text into words, the class Katakana. -/
def wordBreakKatakana : CodeSet where
  categories := []
  added := [
    (0x3031, 0x3035), (0x309B, 0x309C), (0x30A0, 0x30FA), (0x30FC, 0x30FF), (0x31F0, 0x31FF),
    (0x32D0, 0x32FE), (0x3300, 0x3357), (0xFF66, 0xFF9D), (0x1AFF0, 0x1AFF3), (0x1AFF5, 0x1AFFB),
    (0x1AFFD, 0x1AFFE), (0x1B000, 0x1B000), (0x1B120, 0x1B122), (0x1B155, 0x1B155),
    (0x1B164, 0x1B167)]
  removed := []

/-- For breaking text into words, the class LF. -/
def wordBreakLF : CodeSet where
  categories := []
  added := [(0xA, 0xA)]
  removed := []

/-- For breaking text into words, the class MidLetter. -/
def wordBreakMidLetter : CodeSet where
  categories := []
  added := [
    (0x3A, 0x3A), (0xB7, 0xB7), (0x387, 0x387), (0x55F, 0x55F), (0x5F4, 0x5F4), (0x2027, 0x2027),
    (0xFE13, 0xFE13), (0xFE55, 0xFE55), (0xFF1A, 0xFF1A)]
  removed := []

/-- For breaking text into words, the class MidNum. -/
def wordBreakMidNum : CodeSet where
  categories := []
  added := [
    (0x2C, 0x2C), (0x3B, 0x3B), (0x37E, 0x37E), (0x589, 0x589), (0x60C, 0x60D), (0x66C, 0x66C),
    (0x7F8, 0x7F8), (0x2044, 0x2044), (0xFE50, 0xFE50), (0xFE54, 0xFE54), (0xFF0C, 0xFF0C),
    (0xFF1B, 0xFF1B)]
  removed := []

/-- For breaking text into words, the class MidNumLet. -/
def wordBreakMidNumLet : CodeSet where
  categories := []
  added := [
    (0x2E, 0x2E), (0x2018, 0x2019), (0x2024, 0x2024), (0xFE52, 0xFE52), (0xFF07, 0xFF07),
    (0xFF0E, 0xFF0E)]
  removed := []

/-- For breaking text into words, the class Newline. -/
def wordBreakNewline : CodeSet where
  categories := []
  added := [
    (0xB, 0xC), (0x85, 0x85), (0x2028, 0x2029)]
  removed := []

/-- For breaking text into words, the class Numeric. -/
def wordBreakNumeric : CodeSet where
  categories := [.nd]
  added := [
    (0x600, 0x605), (0x66B, 0x66B), (0x6DD, 0x6DD), (0x890, 0x891), (0x8E2, 0x8E2),
    (0x19DA, 0x19DA), (0x110BD, 0x110BD), (0x110CD, 0x110CD)]
  removed := []

/-- For breaking text into words, the class Regional Indicator. -/
def wordBreakRegionalIndicator : CodeSet where
  categories := []
  added := [(0x1F1E6, 0x1F1FF)]
  removed := []

/-- For breaking text into words, the class Single Quote. -/
def wordBreakSingleQuote : CodeSet where
  categories := []
  added := [(0x27, 0x27)]
  removed := []

/-- For breaking text into words, the class WSegSpace. -/
def wordBreakWSegSpace : CodeSet where
  categories := [.zs]
  added := []
  removed := [
    (0xA0, 0xA0), (0x2007, 0x2007), (0x202F, 0x202F)]

/-- For breaking text into words, the class ZWJ. -/
def wordBreakZWJ : CodeSet where
  categories := []
  added := [(0x200D, 0x200D)]
  removed := []

/-- Every class for breaking text into words, with its names. -/
def wordBreaks : List (List String × CodeSet) := [
  (["le", "aletter"], wordBreakALetter),
  (["cr"], wordBreakCR),
  (["dq", "doublequote"], wordBreakDoubleQuote),
  (["extend"], wordBreakExtend),
  (["ex", "extendnumlet"], wordBreakExtendNumLet),
  (["fo", "format"], wordBreakFormat),
  (["hl", "hebrewletter"], wordBreakHebrewLetter),
  (["ka", "katakana"], wordBreakKatakana),
  (["lf"], wordBreakLF),
  (["ml", "midletter"], wordBreakMidLetter),
  (["mn", "midnum"], wordBreakMidNum),
  (["mb", "midnumlet"], wordBreakMidNumLet),
  (["nl", "newline"], wordBreakNewline),
  (["nu", "numeric"], wordBreakNumeric),
  (["ri", "regionalindicator"], wordBreakRegionalIndicator),
  (["sq", "singlequote"], wordBreakSingleQuote),
  (["wsegspace"], wordBreakWSegSpace),
  (["zwj"], wordBreakZWJ)]

/-- For breaking text into sentences, the class ATerm. -/
def sentenceBreakATerm : CodeSet where
  categories := []
  added := [
    (0x2E, 0x2E), (0x2024, 0x2024), (0xFE52, 0xFE52), (0xFF0E, 0xFF0E)]
  removed := []

/-- For breaking text into sentences, the class CR. -/
def sentenceBreakCR : CodeSet where
  categories := []
  added := [(0xD, 0xD)]
  removed := []

/-- For breaking text into sentences, the class Close. -/
def sentenceBreakClose : CodeSet where
  categories := []
  added := [
    (0x22, 0x22), (0x27, 0x29), (0x5B, 0x5B), (0x5D, 0x5D), (0x7B, 0x7B), (0x7D, 0x7D),
    (0xAB, 0xAB), (0xBB, 0xBB), (0xF3A, 0xF3D), (0x169B, 0x169C), (0x2018, 0x201F),
    (0x2039, 0x203A), (0x2045, 0x2046), (0x207D, 0x207E), (0x208D, 0x208E), (0x2308, 0x230B),
    (0x2329, 0x232A), (0x275B, 0x2760), (0x2768, 0x2775), (0x27C5, 0x27C6), (0x27E6, 0x27EF),
    (0x2983, 0x2998), (0x29D8, 0x29DB), (0x29FC, 0x29FD), (0x2E00, 0x2E0D), (0x2E1C, 0x2E1D),
    (0x2E20, 0x2E29), (0x2E42, 0x2E42), (0x2E55, 0x2E5C), (0x3008, 0x3011), (0x3014, 0x301B),
    (0x301D, 0x301F), (0xFD3E, 0xFD3F), (0xFE17, 0xFE18), (0xFE35, 0xFE44), (0xFE47, 0xFE48),
    (0xFE59, 0xFE5E), (0xFF08, 0xFF09), (0xFF3B, 0xFF3B), (0xFF3D, 0xFF3D), (0xFF5B, 0xFF5B),
    (0xFF5D, 0xFF5D), (0xFF5F, 0xFF60), (0xFF62, 0xFF63), (0x1F676, 0x1F678)]
  removed := []

/-- For breaking text into sentences, the class Extend. -/
def sentenceBreakExtend : CodeSet where
  categories := [.mn, .mc, .me]
  added := [
    (0x200C, 0x200D), (0xFF9E, 0xFF9F), (0xE0020, 0xE007F)]
  removed := []

/-- For breaking text into sentences, the class Format. -/
def sentenceBreakFormat : CodeSet where
  categories := [.cf]
  added := []
  removed := [
    (0x600, 0x605), (0x6DD, 0x6DD), (0x890, 0x891), (0x8E2, 0x8E2), (0x200C, 0x200D),
    (0x110BD, 0x110BD), (0x110CD, 0x110CD), (0xE0020, 0xE007F)]

/-- For breaking text into sentences, the class LF. -/
def sentenceBreakLF : CodeSet where
  categories := []
  added := [(0xA, 0xA)]
  removed := []

/-- For breaking text into sentences, the class Lower. -/
def sentenceBreakLower : CodeSet where
  categories := [.ll]
  added := [
    (0xAA, 0xAA), (0xBA, 0xBA), (0x2B0, 0x2B8), (0x2C0, 0x2C1), (0x2E0, 0x2E4), (0x37A, 0x37A),
    (0x10FC, 0x10FC), (0x1D2C, 0x1D6A), (0x1D78, 0x1D78), (0x1D9B, 0x1DBF), (0x2071, 0x2071),
    (0x207F, 0x207F), (0x2090, 0x209C), (0x2170, 0x217F), (0x24D0, 0x24E9), (0x2C7C, 0x2C7D),
    (0xA69C, 0xA69D), (0xA770, 0xA770), (0xA7F2, 0xA7F4), (0xA7F8, 0xA7F9), (0xAB5C, 0xAB5F),
    (0xAB69, 0xAB69), (0x10780, 0x10780), (0x10783, 0x10785), (0x10787, 0x107B0),
    (0x107B2, 0x107BA), (0x1E030, 0x1E06D)]
  removed := [(0x10D0, 0x10FA), (0x10FD, 0x10FF)]

/-- For breaking text into sentences, the class Numeric. -/
def sentenceBreakNumeric : CodeSet where
  categories := [.nd]
  added := [
    (0x600, 0x605), (0x66B, 0x66C), (0x6DD, 0x6DD), (0x890, 0x891), (0x8E2, 0x8E2),
    (0x19DA, 0x19DA), (0x110BD, 0x110BD), (0x110CD, 0x110CD)]
  removed := []

/-- For breaking text into sentences, the class OLetter. -/
def sentenceBreakOLetter : CodeSet where
  categories := [.lm, .lo, .nl]
  added := [
    (0x5F3, 0x5F3), (0x10D0, 0x10FA), (0x10FD, 0x10FF), (0x1C90, 0x1CBA), (0x1CBD, 0x1CBF)]
  removed := [
    (0xAA, 0xAA), (0xBA, 0xBA), (0x2B0, 0x2B8), (0x2C0, 0x2C1), (0x2E0, 0x2E4), (0x37A, 0x37A),
    (0x10FC, 0x10FC), (0x1D2C, 0x1D6A), (0x1D78, 0x1D78), (0x1D9B, 0x1DBF), (0x2071, 0x2071),
    (0x207F, 0x207F), (0x2090, 0x209C), (0x2160, 0x217F), (0x2C7C, 0x2C7D), (0xA69C, 0xA69D),
    (0xA770, 0xA770), (0xA7F2, 0xA7F4), (0xA7F8, 0xA7F9), (0xAB5C, 0xAB5F), (0xAB69, 0xAB69),
    (0xFF9E, 0xFF9F), (0x10780, 0x10780), (0x10783, 0x10785), (0x10787, 0x107B0),
    (0x107B2, 0x107BA), (0x1E030, 0x1E06D)]

/-- For breaking text into sentences, the class SContinue. -/
def sentenceBreakSContinue : CodeSet where
  categories := []
  added := [
    (0x2C, 0x2D), (0x3A, 0x3B), (0x37E, 0x37E), (0x55D, 0x55D), (0x60C, 0x60D), (0x7F8, 0x7F8),
    (0x1802, 0x1802), (0x1808, 0x1808), (0x2013, 0x2014), (0x3001, 0x3001), (0xFE10, 0xFE11),
    (0xFE13, 0xFE14), (0xFE31, 0xFE32), (0xFE50, 0xFE51), (0xFE54, 0xFE55), (0xFE58, 0xFE58),
    (0xFE63, 0xFE63), (0xFF0C, 0xFF0D), (0xFF1A, 0xFF1B), (0xFF64, 0xFF64)]
  removed := []

/-- For breaking text into sentences, the class STerm. -/
def sentenceBreakSTerm : CodeSet where
  categories := []
  added := [
    (0x21, 0x21), (0x3F, 0x3F), (0x589, 0x589), (0x61D, 0x61F), (0x6D4, 0x6D4), (0x700, 0x702),
    (0x7F9, 0x7F9), (0x837, 0x837), (0x839, 0x839), (0x83D, 0x83E), (0x964, 0x965),
    (0x104A, 0x104B), (0x1362, 0x1362), (0x1367, 0x1368), (0x166E, 0x166E), (0x1735, 0x1736),
    (0x17D4, 0x17D5), (0x1803, 0x1803), (0x1809, 0x1809), (0x1944, 0x1945), (0x1AA8, 0x1AAB),
    (0x1B4E, 0x1B4F), (0x1B5A, 0x1B5B), (0x1B5E, 0x1B5F), (0x1B7D, 0x1B7F), (0x1C3B, 0x1C3C),
    (0x1C7E, 0x1C7F), (0x203C, 0x203D), (0x2047, 0x2049), (0x2CF9, 0x2CFB), (0x2E2E, 0x2E2E),
    (0x2E3C, 0x2E3C), (0x2E53, 0x2E54), (0x3002, 0x3002), (0xA4FF, 0xA4FF), (0xA60E, 0xA60F),
    (0xA6F3, 0xA6F3), (0xA6F7, 0xA6F7), (0xA876, 0xA877), (0xA8CE, 0xA8CF), (0xA92F, 0xA92F),
    (0xA9C8, 0xA9C9), (0xAA5D, 0xAA5F), (0xAAF0, 0xAAF1), (0xABEB, 0xABEB), (0xFE12, 0xFE12),
    (0xFE15, 0xFE16), (0xFE56, 0xFE57), (0xFF01, 0xFF01), (0xFF1F, 0xFF1F), (0xFF61, 0xFF61),
    (0x10A56, 0x10A57), (0x10F55, 0x10F59), (0x10F86, 0x10F89), (0x11047, 0x11048),
    (0x110BE, 0x110C1), (0x11141, 0x11143), (0x111C5, 0x111C6), (0x111CD, 0x111CD),
    (0x111DE, 0x111DF), (0x11238, 0x11239), (0x1123B, 0x1123C), (0x112A9, 0x112A9),
    (0x113D4, 0x113D5), (0x1144B, 0x1144C), (0x115C2, 0x115C3), (0x115C9, 0x115D7),
    (0x11641, 0x11642), (0x1173C, 0x1173E), (0x11944, 0x11944), (0x11946, 0x11946),
    (0x11A42, 0x11A43), (0x11A9B, 0x11A9C), (0x11C41, 0x11C42), (0x11EF7, 0x11EF8),
    (0x11F43, 0x11F44), (0x16A6E, 0x16A6F), (0x16AF5, 0x16AF5), (0x16B37, 0x16B38),
    (0x16B44, 0x16B44), (0x16D6E, 0x16D6F), (0x16E98, 0x16E98), (0x1BC9F, 0x1BC9F),
    (0x1DA88, 0x1DA88)]
  removed := []

/-- For breaking text into sentences, the class Sep. -/
def sentenceBreakSep : CodeSet where
  categories := []
  added := [(0x85, 0x85), (0x2028, 0x2029)]
  removed := []

/-- For breaking text into sentences, the class Sp. -/
def sentenceBreakSp : CodeSet where
  categories := [.zs]
  added := [(0x9, 0x9), (0xB, 0xC)]
  removed := []

/-- For breaking text into sentences, the class Upper. -/
def sentenceBreakUpper : CodeSet where
  categories := [.lu, .lt]
  added := [
    (0x2160, 0x216F), (0x24B6, 0x24CF), (0x1F130, 0x1F149), (0x1F150, 0x1F169), (0x1F170, 0x1F189)]
  removed := [(0x1C90, 0x1CBA), (0x1CBD, 0x1CBF)]

/-- Every class for breaking text into sentences, with its names. -/
def sentenceBreaks : List (List String × CodeSet) := [
  (["at", "aterm"], sentenceBreakATerm),
  (["cr"], sentenceBreakCR),
  (["cl", "close"], sentenceBreakClose),
  (["ex", "extend"], sentenceBreakExtend),
  (["fo", "format"], sentenceBreakFormat),
  (["lf"], sentenceBreakLF),
  (["lo", "lower"], sentenceBreakLower),
  (["nu", "numeric"], sentenceBreakNumeric),
  (["le", "oletter"], sentenceBreakOLetter),
  (["sc", "scontinue"], sentenceBreakSContinue),
  (["st", "sterm"], sentenceBreakSTerm),
  (["se", "sep"], sentenceBreakSep),
  (["sp"], sentenceBreakSp),
  (["up", "upper"], sentenceBreakUpper)]

end AccessDecision.Unicode
