import AccessDecision.Unicode.ScriptTable

/-
  The characters that scripts use

  A shared character is counted to each script that uses it. A script of which no
  character is shared, and that uses no shared one, keeps its own set.
-/

namespace AccessDecision.Unicode

/-- The characters that Adlam uses. -/
def usedAdlam : List (Nat × Nat) := [
  (0x61F, 0x61F), (0x640, 0x640), (0x204F, 0x204F), (0x2E41, 0x2E41), (0x1E900, 0x1E94B),
  (0x1E950, 0x1E959), (0x1E95E, 0x1E95F)]

/-- The characters that Arabic uses. -/
def usedArabic : List (Nat × Nat) := [
  (0x600, 0x604), (0x606, 0x6DC), (0x6DE, 0x6FF), (0x750, 0x77F), (0x870, 0x88E), (0x890, 0x891),
  (0x897, 0x8E1), (0x8E3, 0x8FF), (0x204F, 0x204F), (0x2E41, 0x2E41), (0xFB50, 0xFBC2),
  (0xFBD3, 0xFD8F), (0xFD92, 0xFDC7), (0xFDCF, 0xFDCF), (0xFDF0, 0xFDFF), (0xFE70, 0xFE74),
  (0xFE76, 0xFEFC), (0x102E0, 0x102FB), (0x10E60, 0x10E7E), (0x10EC2, 0x10EC4), (0x10EFC, 0x10EFF),
  (0x1EE00, 0x1EE03), (0x1EE05, 0x1EE1F), (0x1EE21, 0x1EE22), (0x1EE24, 0x1EE24),
  (0x1EE27, 0x1EE27), (0x1EE29, 0x1EE32), (0x1EE34, 0x1EE37), (0x1EE39, 0x1EE39),
  (0x1EE3B, 0x1EE3B), (0x1EE42, 0x1EE42), (0x1EE47, 0x1EE47), (0x1EE49, 0x1EE49),
  (0x1EE4B, 0x1EE4B), (0x1EE4D, 0x1EE4F), (0x1EE51, 0x1EE52), (0x1EE54, 0x1EE54),
  (0x1EE57, 0x1EE57), (0x1EE59, 0x1EE59), (0x1EE5B, 0x1EE5B), (0x1EE5D, 0x1EE5D),
  (0x1EE5F, 0x1EE5F), (0x1EE61, 0x1EE62), (0x1EE64, 0x1EE64), (0x1EE67, 0x1EE6A),
  (0x1EE6C, 0x1EE72), (0x1EE74, 0x1EE77), (0x1EE79, 0x1EE7C), (0x1EE7E, 0x1EE7E),
  (0x1EE80, 0x1EE89), (0x1EE8B, 0x1EE9B), (0x1EEA1, 0x1EEA3), (0x1EEA5, 0x1EEA9),
  (0x1EEAB, 0x1EEBB), (0x1EEF0, 0x1EEF1)]

/-- The characters that Armenian uses. -/
def usedArmenian : List (Nat × Nat) := [
  (0x308, 0x308), (0x531, 0x556), (0x559, 0x58A), (0x58D, 0x58F), (0xFB13, 0xFB17)]

/-- The characters that Avestan uses. -/
def usedAvestan : List (Nat × Nat) := [
  (0xB7, 0xB7), (0x2E30, 0x2E31), (0x10B00, 0x10B35), (0x10B39, 0x10B3F)]

/-- The characters that Bengali uses. -/
def usedBengali : List (Nat × Nat) := [
  (0x2BC, 0x2BC), (0x951, 0x952), (0x964, 0x965), (0x980, 0x983), (0x985, 0x98C), (0x98F, 0x990),
  (0x993, 0x9A8), (0x9AA, 0x9B0), (0x9B2, 0x9B2), (0x9B6, 0x9B9), (0x9BC, 0x9C4), (0x9C7, 0x9C8),
  (0x9CB, 0x9CE), (0x9D7, 0x9D7), (0x9DC, 0x9DD), (0x9DF, 0x9E3), (0x9E6, 0x9FE), (0x1CD0, 0x1CD0),
  (0x1CD2, 0x1CD2), (0x1CD5, 0x1CD6), (0x1CD8, 0x1CD8), (0x1CE1, 0x1CE1), (0x1CEA, 0x1CEA),
  (0x1CED, 0x1CED), (0x1CF2, 0x1CF2), (0x1CF5, 0x1CF7), (0xA8F1, 0xA8F1)]

/-- The characters that Bopomofo uses. -/
def usedBopomofo : List (Nat × Nat) := [
  (0x2C7, 0x2C7), (0x2C9, 0x2CB), (0x2D9, 0x2D9), (0x2EA, 0x2EB), (0x3001, 0x3003),
  (0x3008, 0x3011), (0x3013, 0x301F), (0x302A, 0x302D), (0x3030, 0x3030), (0x3037, 0x3037),
  (0x30FB, 0x30FB), (0x3105, 0x312F), (0x31A0, 0x31BF), (0xFE45, 0xFE46), (0xFF61, 0xFF65)]

/-- The characters that Buginese uses. -/
def usedBuginese : List (Nat × Nat) := [
  (0x1A00, 0x1A1B), (0x1A1E, 0x1A1F), (0xA9CF, 0xA9CF)]

/-- The characters that Buhid uses. -/
def usedBuhid : List (Nat × Nat) := [(0x1735, 0x1736), (0x1740, 0x1753)]

/-- The characters that Carian uses. -/
def usedCarian : List (Nat × Nat) := [
  (0xB7, 0xB7), (0x205A, 0x205A), (0x205D, 0x205D), (0x2E31, 0x2E31), (0x102A0, 0x102D0)]

/-- The characters that Caucasian Albanian uses. -/
def usedCaucasianAlbanian : List (Nat × Nat) := [
  (0x304, 0x304), (0x331, 0x331), (0x35E, 0x35E), (0x10530, 0x10563), (0x1056F, 0x1056F)]

/-- The characters that Chakma uses. -/
def usedChakma : List (Nat × Nat) := [
  (0x9E6, 0x9EF), (0x1040, 0x1049), (0x11100, 0x11134), (0x11136, 0x11147)]

/-- The characters that Cherokee uses. -/
def usedCherokee : List (Nat × Nat) := [
  (0x300, 0x302), (0x304, 0x304), (0x30B, 0x30C), (0x323, 0x324), (0x330, 0x331), (0x13A0, 0x13F5),
  (0x13F8, 0x13FD), (0xAB70, 0xABBF)]

/-- The characters that Common uses. -/
def usedCommon : List (Nat × Nat) := [
  (0x0, 0x40), (0x5B, 0x60), (0x7B, 0xA9), (0xAB, 0xB6), (0xB8, 0xB9), (0xBB, 0xBF), (0xD7, 0xD7),
  (0xF7, 0xF7), (0x2B9, 0x2BB), (0x2BD, 0x2C6), (0x2C8, 0x2C8), (0x2CC, 0x2CC), (0x2CE, 0x2D6),
  (0x2D8, 0x2D8), (0x2DA, 0x2DF), (0x2E5, 0x2E9), (0x2EC, 0x2FF), (0x37E, 0x37E), (0x385, 0x385),
  (0x387, 0x387), (0x605, 0x605), (0x6DD, 0x6DD), (0x8E2, 0x8E2), (0xE3F, 0xE3F), (0xFD5, 0xFD8),
  (0x2000, 0x200B), (0x200E, 0x202E), (0x2030, 0x204E), (0x2050, 0x2059), (0x205B, 0x205C),
  (0x205E, 0x2064), (0x2066, 0x2070), (0x2074, 0x207E), (0x2080, 0x208E), (0x20A0, 0x20C0),
  (0x2100, 0x2125), (0x2127, 0x2129), (0x212C, 0x2131), (0x2133, 0x214D), (0x214F, 0x215F),
  (0x2189, 0x218B), (0x2190, 0x2429), (0x2440, 0x244A), (0x2460, 0x27FF), (0x2900, 0x2B73),
  (0x2B76, 0x2B95), (0x2B97, 0x2BFF), (0x2E00, 0x2E16), (0x2E18, 0x2E2F), (0x2E32, 0x2E3B),
  (0x2E3D, 0x2E40), (0x2E42, 0x2E42), (0x2E44, 0x2E5D), (0x3000, 0x3000), (0x3004, 0x3004),
  (0x3012, 0x3012), (0x3020, 0x3020), (0x3036, 0x3036), (0x3248, 0x325F), (0x327F, 0x327F),
  (0x32B1, 0x32BF), (0x32CC, 0x32CF), (0x3371, 0x337A), (0x3380, 0x33DF), (0x33FF, 0x33FF),
  (0x4DC0, 0x4DFF), (0xA708, 0xA721), (0xA788, 0xA78A), (0xAB5B, 0xAB5B), (0xAB6A, 0xAB6B),
  (0xFE10, 0xFE19), (0xFE30, 0xFE44), (0xFE47, 0xFE52), (0xFE54, 0xFE66), (0xFE68, 0xFE6B),
  (0xFEFF, 0xFEFF), (0xFF01, 0xFF20), (0xFF3B, 0xFF40), (0xFF5B, 0xFF60), (0xFFE0, 0xFFE6),
  (0xFFE8, 0xFFEE), (0xFFF9, 0xFFFD), (0x10190, 0x1019C), (0x101D0, 0x101FC), (0x1CC00, 0x1CCF9),
  (0x1CD00, 0x1CEB3), (0x1CF50, 0x1CFC3), (0x1D000, 0x1D0F5), (0x1D100, 0x1D126),
  (0x1D129, 0x1D166), (0x1D16A, 0x1D17A), (0x1D183, 0x1D184), (0x1D18C, 0x1D1A9),
  (0x1D1AE, 0x1D1EA), (0x1D2C0, 0x1D2D3), (0x1D2E0, 0x1D2F3), (0x1D300, 0x1D356),
  (0x1D372, 0x1D378), (0x1D400, 0x1D454), (0x1D456, 0x1D49C), (0x1D49E, 0x1D49F),
  (0x1D4A2, 0x1D4A2), (0x1D4A5, 0x1D4A6), (0x1D4A9, 0x1D4AC), (0x1D4AE, 0x1D4B9),
  (0x1D4BB, 0x1D4BB), (0x1D4BD, 0x1D4C3), (0x1D4C5, 0x1D505), (0x1D507, 0x1D50A),
  (0x1D50D, 0x1D514), (0x1D516, 0x1D51C), (0x1D51E, 0x1D539), (0x1D53B, 0x1D53E),
  (0x1D540, 0x1D544), (0x1D546, 0x1D546), (0x1D54A, 0x1D550), (0x1D552, 0x1D6A5),
  (0x1D6A8, 0x1D7CB), (0x1D7CE, 0x1D7FF), (0x1EC71, 0x1ECB4), (0x1ED01, 0x1ED3D),
  (0x1F000, 0x1F02B), (0x1F030, 0x1F093), (0x1F0A0, 0x1F0AE), (0x1F0B1, 0x1F0BF),
  (0x1F0C1, 0x1F0CF), (0x1F0D1, 0x1F0F5), (0x1F100, 0x1F1AD), (0x1F1E6, 0x1F1FF),
  (0x1F201, 0x1F202), (0x1F210, 0x1F23B), (0x1F240, 0x1F248), (0x1F260, 0x1F265),
  (0x1F300, 0x1F6D7), (0x1F6DC, 0x1F6EC), (0x1F6F0, 0x1F6FC), (0x1F700, 0x1F776),
  (0x1F77B, 0x1F7D9), (0x1F7E0, 0x1F7EB), (0x1F7F0, 0x1F7F0), (0x1F800, 0x1F80B),
  (0x1F810, 0x1F847), (0x1F850, 0x1F859), (0x1F860, 0x1F887), (0x1F890, 0x1F8AD),
  (0x1F8B0, 0x1F8BB), (0x1F8C0, 0x1F8C1), (0x1F900, 0x1FA53), (0x1FA60, 0x1FA6D),
  (0x1FA70, 0x1FA7C), (0x1FA80, 0x1FA89), (0x1FA8F, 0x1FAC6), (0x1FACE, 0x1FADC),
  (0x1FADF, 0x1FAE9), (0x1FAF0, 0x1FAF8), (0x1FB00, 0x1FB92), (0x1FB94, 0x1FBF9),
  (0xE0001, 0xE0001), (0xE0020, 0xE007F)]

/-- The characters that Coptic uses. -/
def usedCoptic : List (Nat × Nat) := [
  (0xB7, 0xB7), (0x300, 0x300), (0x304, 0x305), (0x307, 0x307), (0x374, 0x375), (0x3E2, 0x3EF),
  (0x2C80, 0x2CF3), (0x2CF9, 0x2CFF), (0x2E17, 0x2E17), (0x102E0, 0x102FB)]

/-- The characters that Cypriot uses. -/
def usedCypriot : List (Nat × Nat) := [
  (0x10100, 0x10102), (0x10107, 0x10133), (0x10137, 0x1013F), (0x10800, 0x10805),
  (0x10808, 0x10808), (0x1080A, 0x10835), (0x10837, 0x10838), (0x1083C, 0x1083C),
  (0x1083F, 0x1083F)]

/-- The characters that Cypro Minoan uses. -/
def usedCyproMinoan : List (Nat × Nat) := [(0x10100, 0x10101), (0x12F90, 0x12FF2)]

/-- The characters that Cyrillic uses. -/
def usedCyrillic : List (Nat × Nat) := [
  (0x2BC, 0x2BC), (0x300, 0x302), (0x304, 0x304), (0x306, 0x306), (0x308, 0x308), (0x30B, 0x30B),
  (0x311, 0x311), (0x400, 0x52F), (0x1C80, 0x1C8A), (0x1D2B, 0x1D2B), (0x1D78, 0x1D78),
  (0x1DF8, 0x1DF8), (0x2DE0, 0x2DFF), (0x2E43, 0x2E43), (0xA640, 0xA69F), (0xFE2E, 0xFE2F),
  (0x1E030, 0x1E06D), (0x1E08F, 0x1E08F)]

/-- The characters that Devanagari uses. -/
def usedDevanagari : List (Nat × Nat) := [
  (0x2BC, 0x2BC), (0x900, 0x952), (0x955, 0x97F), (0x1CD0, 0x1CF6), (0x1CF8, 0x1CF9),
  (0x20F0, 0x20F0), (0xA830, 0xA839), (0xA8E0, 0xA8FF), (0x11B00, 0x11B09)]

/-- The characters that Dogra uses. -/
def usedDogra : List (Nat × Nat) := [
  (0x964, 0x96F), (0xA830, 0xA839), (0x11800, 0x1183B)]

/-- The characters that Duployan uses. -/
def usedDuployan : List (Nat × Nat) := [
  (0xB7, 0xB7), (0x307, 0x308), (0x30A, 0x30A), (0x323, 0x324), (0x2E3C, 0x2E3C),
  (0x1BC00, 0x1BC6A), (0x1BC70, 0x1BC7C), (0x1BC80, 0x1BC88), (0x1BC90, 0x1BC99),
  (0x1BC9C, 0x1BCA3)]

/-- The characters that Elbasan uses. -/
def usedElbasan : List (Nat × Nat) := [
  (0xB7, 0xB7), (0x305, 0x305), (0x10500, 0x10527)]

/-- The characters that Ethiopic uses. -/
def usedEthiopic : List (Nat × Nat) := [
  (0x30E, 0x30E), (0x1200, 0x1248), (0x124A, 0x124D), (0x1250, 0x1256), (0x1258, 0x1258),
  (0x125A, 0x125D), (0x1260, 0x1288), (0x128A, 0x128D), (0x1290, 0x12B0), (0x12B2, 0x12B5),
  (0x12B8, 0x12BE), (0x12C0, 0x12C0), (0x12C2, 0x12C5), (0x12C8, 0x12D6), (0x12D8, 0x1310),
  (0x1312, 0x1315), (0x1318, 0x135A), (0x135D, 0x137C), (0x1380, 0x1399), (0x2D80, 0x2D96),
  (0x2DA0, 0x2DA6), (0x2DA8, 0x2DAE), (0x2DB0, 0x2DB6), (0x2DB8, 0x2DBE), (0x2DC0, 0x2DC6),
  (0x2DC8, 0x2DCE), (0x2DD0, 0x2DD6), (0x2DD8, 0x2DDE), (0xAB01, 0xAB06), (0xAB09, 0xAB0E),
  (0xAB11, 0xAB16), (0xAB20, 0xAB26), (0xAB28, 0xAB2E), (0x1E7E0, 0x1E7E6), (0x1E7E8, 0x1E7EB),
  (0x1E7ED, 0x1E7EE), (0x1E7F0, 0x1E7FE)]

/-- The characters that Garay uses. -/
def usedGaray : List (Nat × Nat) := [
  (0x60C, 0x60C), (0x61B, 0x61B), (0x61F, 0x61F), (0x10D40, 0x10D65), (0x10D69, 0x10D85),
  (0x10D8E, 0x10D8F)]

/-- The characters that Georgian uses. -/
def usedGeorgian : List (Nat × Nat) := [
  (0xB7, 0xB7), (0x589, 0x589), (0x10A0, 0x10C5), (0x10C7, 0x10C7), (0x10CD, 0x10CD),
  (0x10D0, 0x10FF), (0x1C90, 0x1CBA), (0x1CBD, 0x1CBF), (0x205A, 0x205A), (0x2D00, 0x2D25),
  (0x2D27, 0x2D27), (0x2D2D, 0x2D2D), (0x2E31, 0x2E31)]

/-- The characters that Glagolitic uses. -/
def usedGlagolitic : List (Nat × Nat) := [
  (0xB7, 0xB7), (0x303, 0x303), (0x305, 0x305), (0x484, 0x484), (0x487, 0x487), (0x589, 0x589),
  (0x10FB, 0x10FB), (0x205A, 0x205A), (0x2C00, 0x2C5F), (0x2E43, 0x2E43), (0xA66F, 0xA66F),
  (0x1E000, 0x1E006), (0x1E008, 0x1E018), (0x1E01B, 0x1E021), (0x1E023, 0x1E024),
  (0x1E026, 0x1E02A)]

/-- The characters that Gothic uses. -/
def usedGothic : List (Nat × Nat) := [
  (0xB7, 0xB7), (0x304, 0x305), (0x308, 0x308), (0x331, 0x331), (0x10330, 0x1034A)]

/-- The characters that Grantha uses. -/
def usedGrantha : List (Nat × Nat) := [
  (0x951, 0x952), (0x964, 0x965), (0xBE6, 0xBF3), (0x1CD0, 0x1CD0), (0x1CD2, 0x1CD3),
  (0x1CF2, 0x1CF4), (0x1CF8, 0x1CF9), (0x20F0, 0x20F0), (0x11300, 0x11303), (0x11305, 0x1130C),
  (0x1130F, 0x11310), (0x11313, 0x11328), (0x1132A, 0x11330), (0x11332, 0x11333),
  (0x11335, 0x11339), (0x1133B, 0x11344), (0x11347, 0x11348), (0x1134B, 0x1134D),
  (0x11350, 0x11350), (0x11357, 0x11357), (0x1135D, 0x11363), (0x11366, 0x1136C),
  (0x11370, 0x11374), (0x11FD0, 0x11FD1), (0x11FD3, 0x11FD3)]

/-- The characters that Greek uses. -/
def usedGreek : List (Nat × Nat) := [
  (0xB7, 0xB7), (0x300, 0x301), (0x304, 0x304), (0x306, 0x306), (0x308, 0x308), (0x313, 0x313),
  (0x342, 0x342), (0x345, 0x345), (0x370, 0x377), (0x37A, 0x37D), (0x37F, 0x37F), (0x384, 0x384),
  (0x386, 0x386), (0x388, 0x38A), (0x38C, 0x38C), (0x38E, 0x3A1), (0x3A3, 0x3E1), (0x3F0, 0x3FF),
  (0x1D26, 0x1D2A), (0x1D5D, 0x1D61), (0x1D66, 0x1D6A), (0x1DBF, 0x1DC1), (0x1F00, 0x1F15),
  (0x1F18, 0x1F1D), (0x1F20, 0x1F45), (0x1F48, 0x1F4D), (0x1F50, 0x1F57), (0x1F59, 0x1F59),
  (0x1F5B, 0x1F5B), (0x1F5D, 0x1F5D), (0x1F5F, 0x1F7D), (0x1F80, 0x1FB4), (0x1FB6, 0x1FC4),
  (0x1FC6, 0x1FD3), (0x1FD6, 0x1FDB), (0x1FDD, 0x1FEF), (0x1FF2, 0x1FF4), (0x1FF6, 0x1FFE),
  (0x205D, 0x205D), (0x2126, 0x2126), (0xAB65, 0xAB65), (0x10140, 0x1018E), (0x101A0, 0x101A0),
  (0x1D200, 0x1D245)]

/-- The characters that Gujarati uses. -/
def usedGujarati : List (Nat × Nat) := [
  (0x951, 0x952), (0x964, 0x965), (0xA81, 0xA83), (0xA85, 0xA8D), (0xA8F, 0xA91), (0xA93, 0xAA8),
  (0xAAA, 0xAB0), (0xAB2, 0xAB3), (0xAB5, 0xAB9), (0xABC, 0xAC5), (0xAC7, 0xAC9), (0xACB, 0xACD),
  (0xAD0, 0xAD0), (0xAE0, 0xAE3), (0xAE6, 0xAF1), (0xAF9, 0xAFF), (0xA830, 0xA839)]

/-- The characters that Gunjala Gondi uses. -/
def usedGunjalaGondi : List (Nat × Nat) := [
  (0xB7, 0xB7), (0x964, 0x965), (0x11D60, 0x11D65), (0x11D67, 0x11D68), (0x11D6A, 0x11D8E),
  (0x11D90, 0x11D91), (0x11D93, 0x11D98), (0x11DA0, 0x11DA9)]

/-- The characters that Gurmukhi uses. -/
def usedGurmukhi : List (Nat × Nat) := [
  (0x951, 0x952), (0x964, 0x965), (0xA01, 0xA03), (0xA05, 0xA0A), (0xA0F, 0xA10), (0xA13, 0xA28),
  (0xA2A, 0xA30), (0xA32, 0xA33), (0xA35, 0xA36), (0xA38, 0xA39), (0xA3C, 0xA3C), (0xA3E, 0xA42),
  (0xA47, 0xA48), (0xA4B, 0xA4D), (0xA51, 0xA51), (0xA59, 0xA5C), (0xA5E, 0xA5E), (0xA66, 0xA76),
  (0xA830, 0xA839)]

/-- The characters that Gurung Khema uses. -/
def usedGurungKhema : List (Nat × Nat) := [(0x965, 0x965), (0x16100, 0x16139)]

/-- The characters that Han uses. -/
def usedHan : List (Nat × Nat) := [
  (0xB7, 0xB7), (0x2E80, 0x2E99), (0x2E9B, 0x2EF3), (0x2F00, 0x2FD5), (0x2FF0, 0x2FFF),
  (0x3001, 0x3003), (0x3005, 0x3011), (0x3013, 0x301F), (0x3021, 0x302D), (0x3030, 0x3030),
  (0x3037, 0x303F), (0x30FB, 0x30FB), (0x3190, 0x319F), (0x31C0, 0x31E5), (0x31EF, 0x31EF),
  (0x3220, 0x3247), (0x3280, 0x32B0), (0x32C0, 0x32CB), (0x32FF, 0x32FF), (0x3358, 0x3370),
  (0x337B, 0x337F), (0x33E0, 0x33FE), (0x3400, 0x4DBF), (0x4E00, 0x9FFF), (0xA700, 0xA707),
  (0xF900, 0xFA6D), (0xFA70, 0xFAD9), (0xFE45, 0xFE46), (0xFF61, 0xFF65), (0x16FE2, 0x16FE3),
  (0x16FF0, 0x16FF1), (0x1D360, 0x1D371), (0x1F250, 0x1F251), (0x20000, 0x2A6DF),
  (0x2A700, 0x2B739), (0x2B740, 0x2B81D), (0x2B820, 0x2CEA1), (0x2CEB0, 0x2EBE0),
  (0x2EBF0, 0x2EE5D), (0x2F800, 0x2FA1D), (0x30000, 0x3134A), (0x31350, 0x323AF)]

/-- The characters that Hangul uses. -/
def usedHangul : List (Nat × Nat) := [
  (0x1100, 0x11FF), (0x3001, 0x3003), (0x3008, 0x3011), (0x3013, 0x301F), (0x302E, 0x3030),
  (0x3037, 0x3037), (0x30FB, 0x30FB), (0x3131, 0x318E), (0x3200, 0x321E), (0x3260, 0x327E),
  (0xA960, 0xA97C), (0xAC00, 0xD7A3), (0xD7B0, 0xD7C6), (0xD7CB, 0xD7FB), (0xFE45, 0xFE46),
  (0xFF61, 0xFF65), (0xFFA0, 0xFFBE), (0xFFC2, 0xFFC7), (0xFFCA, 0xFFCF), (0xFFD2, 0xFFD7),
  (0xFFDA, 0xFFDC)]

/-- The characters that Hanifi Rohingya uses. -/
def usedHanifiRohingya : List (Nat × Nat) := [
  (0x60C, 0x60C), (0x61B, 0x61B), (0x61F, 0x61F), (0x640, 0x640), (0x6D4, 0x6D4),
  (0x10D00, 0x10D27), (0x10D30, 0x10D39)]

/-- The characters that Hanunoo uses. -/
def usedHanunoo : List (Nat × Nat) := [(0x1720, 0x1736)]

/-- The characters that Hebrew uses. -/
def usedHebrew : List (Nat × Nat) := [
  (0x307, 0x308), (0x591, 0x5C7), (0x5D0, 0x5EA), (0x5EF, 0x5F4), (0xFB1D, 0xFB36),
  (0xFB38, 0xFB3C), (0xFB3E, 0xFB3E), (0xFB40, 0xFB41), (0xFB43, 0xFB44), (0xFB46, 0xFB4F)]

/-- The characters that Hiragana uses. -/
def usedHiragana : List (Nat × Nat) := [
  (0x3001, 0x3003), (0x3008, 0x3011), (0x3013, 0x301F), (0x3030, 0x3035), (0x3037, 0x3037),
  (0x303C, 0x303D), (0x3041, 0x3096), (0x3099, 0x30A0), (0x30FB, 0x30FC), (0xFE45, 0xFE46),
  (0xFF61, 0xFF65), (0xFF70, 0xFF70), (0xFF9E, 0xFF9F), (0x1B001, 0x1B11F), (0x1B132, 0x1B132),
  (0x1B150, 0x1B152), (0x1F200, 0x1F200)]

/-- The characters that Inherited uses. -/
def usedInherited : List (Nat × Nat) := [
  (0x30F, 0x30F), (0x312, 0x312), (0x314, 0x31F), (0x321, 0x322), (0x326, 0x32C), (0x32F, 0x32F),
  (0x332, 0x341), (0x343, 0x344), (0x346, 0x357), (0x359, 0x35D), (0x35F, 0x362), (0x953, 0x954),
  (0x1AB0, 0x1ACE), (0x1DC2, 0x1DF7), (0x1DF9, 0x1DF9), (0x1DFB, 0x1DFF), (0x200C, 0x200D),
  (0x20D0, 0x20EF), (0xFE00, 0xFE0F), (0xFE20, 0xFE2D), (0x101FD, 0x101FD), (0x1CF00, 0x1CF2D),
  (0x1CF30, 0x1CF46), (0x1D167, 0x1D169), (0x1D17B, 0x1D182), (0x1D185, 0x1D18B),
  (0x1D1AA, 0x1D1AD), (0xE0100, 0xE01EF)]

/-- The characters that Javanese uses. -/
def usedJavanese : List (Nat × Nat) := [
  (0xA980, 0xA9CD), (0xA9CF, 0xA9D9), (0xA9DE, 0xA9DF)]

/-- The characters that Kaithi uses. -/
def usedKaithi : List (Nat × Nat) := [
  (0x966, 0x96F), (0x2E31, 0x2E31), (0xA830, 0xA839), (0x11080, 0x110C2), (0x110CD, 0x110CD)]

/-- The characters that Kannada uses. -/
def usedKannada : List (Nat × Nat) := [
  (0x951, 0x952), (0x964, 0x965), (0xC80, 0xC8C), (0xC8E, 0xC90), (0xC92, 0xCA8), (0xCAA, 0xCB3),
  (0xCB5, 0xCB9), (0xCBC, 0xCC4), (0xCC6, 0xCC8), (0xCCA, 0xCCD), (0xCD5, 0xCD6), (0xCDD, 0xCDE),
  (0xCE0, 0xCE3), (0xCE6, 0xCEF), (0xCF1, 0xCF3), (0x1CD0, 0x1CD0), (0x1CD2, 0x1CD3),
  (0x1CDA, 0x1CDA), (0x1CF2, 0x1CF2), (0x1CF4, 0x1CF4), (0xA830, 0xA835)]

/-- The characters that Katakana uses. -/
def usedKatakana : List (Nat × Nat) := [
  (0x305, 0x305), (0x323, 0x323), (0x3001, 0x3003), (0x3008, 0x3011), (0x3013, 0x301F),
  (0x3030, 0x3035), (0x3037, 0x3037), (0x303C, 0x303D), (0x3099, 0x309C), (0x30A0, 0x30FF),
  (0x31F0, 0x31FF), (0x32D0, 0x32FE), (0x3300, 0x3357), (0xFE45, 0xFE46), (0xFF61, 0xFF9F),
  (0x1AFF0, 0x1AFF3), (0x1AFF5, 0x1AFFB), (0x1AFFD, 0x1AFFE), (0x1B000, 0x1B000),
  (0x1B120, 0x1B122), (0x1B155, 0x1B155), (0x1B164, 0x1B167)]

/-- The characters that Kayah Li uses. -/
def usedKayahLi : List (Nat × Nat) := [(0xA900, 0xA92F)]

/-- The characters that Khojki uses. -/
def usedKhojki : List (Nat × Nat) := [
  (0xAE6, 0xAEF), (0xA830, 0xA839), (0x11200, 0x11211), (0x11213, 0x11241)]

/-- The characters that Khudawadi uses. -/
def usedKhudawadi : List (Nat × Nat) := [
  (0x964, 0x965), (0xA830, 0xA839), (0x112B0, 0x112EA), (0x112F0, 0x112F9)]

/-- The characters that Latin uses. -/
def usedLatin : List (Nat × Nat) := [
  (0x41, 0x5A), (0x61, 0x7A), (0xAA, 0xAA), (0xB7, 0xB7), (0xBA, 0xBA), (0xC0, 0xD6), (0xD8, 0xF6),
  (0xF8, 0x2B8), (0x2BC, 0x2BC), (0x2C7, 0x2C7), (0x2C9, 0x2CB), (0x2CD, 0x2CD), (0x2D7, 0x2D7),
  (0x2D9, 0x2D9), (0x2E0, 0x2E4), (0x300, 0x30E), (0x310, 0x311), (0x313, 0x313), (0x320, 0x320),
  (0x323, 0x325), (0x32D, 0x32E), (0x330, 0x331), (0x358, 0x358), (0x35E, 0x35E), (0x363, 0x36F),
  (0x485, 0x486), (0x951, 0x952), (0x10FB, 0x10FB), (0x1D00, 0x1D25), (0x1D2C, 0x1D5C),
  (0x1D62, 0x1D65), (0x1D6B, 0x1D77), (0x1D79, 0x1DBE), (0x1DF8, 0x1DF8), (0x1E00, 0x1EFF),
  (0x202F, 0x202F), (0x2071, 0x2071), (0x207F, 0x207F), (0x2090, 0x209C), (0x20F0, 0x20F0),
  (0x212A, 0x212B), (0x2132, 0x2132), (0x214E, 0x214E), (0x2160, 0x2188), (0x2C60, 0x2C7F),
  (0x2E17, 0x2E17), (0xA700, 0xA707), (0xA722, 0xA787), (0xA78B, 0xA7CD), (0xA7D0, 0xA7D1),
  (0xA7D3, 0xA7D3), (0xA7D5, 0xA7DC), (0xA7F2, 0xA7FF), (0xA92E, 0xA92E), (0xAB30, 0xAB5A),
  (0xAB5C, 0xAB64), (0xAB66, 0xAB69), (0xFB00, 0xFB06), (0xFF21, 0xFF3A), (0xFF41, 0xFF5A),
  (0x10780, 0x10785), (0x10787, 0x107B0), (0x107B2, 0x107BA), (0x1DF00, 0x1DF1E),
  (0x1DF25, 0x1DF2A)]

/-- The characters that Limbu uses. -/
def usedLimbu : List (Nat × Nat) := [
  (0x965, 0x965), (0x1900, 0x191E), (0x1920, 0x192B), (0x1930, 0x193B), (0x1940, 0x1940),
  (0x1944, 0x194F)]

/-- The characters that Linear A uses. -/
def usedLinearA : List (Nat × Nat) := [
  (0x10107, 0x10133), (0x10600, 0x10736), (0x10740, 0x10755), (0x10760, 0x10767)]

/-- The characters that Linear B uses. -/
def usedLinearB : List (Nat × Nat) := [
  (0x10000, 0x1000B), (0x1000D, 0x10026), (0x10028, 0x1003A), (0x1003C, 0x1003D),
  (0x1003F, 0x1004D), (0x10050, 0x1005D), (0x10080, 0x100FA), (0x10100, 0x10102),
  (0x10107, 0x10133), (0x10137, 0x1013F)]

/-- The characters that Lisu uses. -/
def usedLisu : List (Nat × Nat) := [
  (0x2BC, 0x2BC), (0x2CD, 0x2CD), (0x300A, 0x300B), (0xA4D0, 0xA4FF), (0x11FB0, 0x11FB0)]

/-- The characters that Lycian uses. -/
def usedLycian : List (Nat × Nat) := [(0x205A, 0x205A), (0x10280, 0x1029C)]

/-- The characters that Lydian uses. -/
def usedLydian : List (Nat × Nat) := [
  (0xB7, 0xB7), (0x2E31, 0x2E31), (0x10920, 0x10939), (0x1093F, 0x1093F)]

/-- The characters that Mahajani uses. -/
def usedMahajani : List (Nat × Nat) := [
  (0xB7, 0xB7), (0x964, 0x96F), (0xA830, 0xA839), (0x11150, 0x11176)]

/-- The characters that Malayalam uses. -/
def usedMalayalam : List (Nat × Nat) := [
  (0x951, 0x952), (0x964, 0x965), (0xD00, 0xD0C), (0xD0E, 0xD10), (0xD12, 0xD44), (0xD46, 0xD48),
  (0xD4A, 0xD4F), (0xD54, 0xD63), (0xD66, 0xD7F), (0x1CDA, 0x1CDA), (0x1CF2, 0x1CF2),
  (0xA830, 0xA832)]

/-- The characters that Mandaic uses. -/
def usedMandaic : List (Nat × Nat) := [
  (0x640, 0x640), (0x840, 0x85B), (0x85E, 0x85E)]

/-- The characters that Manichaean uses. -/
def usedManichaean : List (Nat × Nat) := [
  (0x640, 0x640), (0x10AC0, 0x10AE6), (0x10AEB, 0x10AF6)]

/-- The characters that Masaram Gondi uses. -/
def usedMasaramGondi : List (Nat × Nat) := [
  (0x964, 0x965), (0x11D00, 0x11D06), (0x11D08, 0x11D09), (0x11D0B, 0x11D36), (0x11D3A, 0x11D3A),
  (0x11D3C, 0x11D3D), (0x11D3F, 0x11D47), (0x11D50, 0x11D59)]

/-- The characters that Meroitic Hieroglyphs uses. -/
def usedMeroiticHieroglyphs : List (Nat × Nat) := [(0x205D, 0x205D), (0x10980, 0x1099F)]

/-- The characters that Modi uses. -/
def usedModi : List (Nat × Nat) := [
  (0xA830, 0xA839), (0x11600, 0x11644), (0x11650, 0x11659)]

/-- The characters that Mongolian uses. -/
def usedMongolian : List (Nat × Nat) := [
  (0x1800, 0x1819), (0x1820, 0x1878), (0x1880, 0x18AA), (0x202F, 0x202F), (0x3001, 0x3002),
  (0x3008, 0x300B), (0x11660, 0x1166C)]

/-- The characters that Multani uses. -/
def usedMultani : List (Nat × Nat) := [
  (0xA66, 0xA6F), (0x11280, 0x11286), (0x11288, 0x11288), (0x1128A, 0x1128D), (0x1128F, 0x1129D),
  (0x1129F, 0x112A9)]

/-- The characters that Myanmar uses. -/
def usedMyanmar : List (Nat × Nat) := [
  (0x1000, 0x109F), (0xA92E, 0xA92E), (0xA9E0, 0xA9FE), (0xAA60, 0xAA7F), (0x116D0, 0x116E3)]

/-- The characters that Nandinagari uses. -/
def usedNandinagari : List (Nat × Nat) := [
  (0x964, 0x965), (0xCE6, 0xCEF), (0x1CE9, 0x1CE9), (0x1CF2, 0x1CF2), (0x1CFA, 0x1CFA),
  (0xA830, 0xA835), (0x119A0, 0x119A7), (0x119AA, 0x119D7), (0x119DA, 0x119E4)]

/-- The characters that Nko uses. -/
def usedNko : List (Nat × Nat) := [
  (0x60C, 0x60C), (0x61B, 0x61B), (0x61F, 0x61F), (0x7C0, 0x7FA), (0x7FD, 0x7FF), (0xFD3E, 0xFD3F)]

/-- The characters that Ol Onal uses. -/
def usedOlOnal : List (Nat × Nat) := [
  (0x964, 0x965), (0x1E5D0, 0x1E5FA), (0x1E5FF, 0x1E5FF)]

/-- The characters that Old Hungarian uses. -/
def usedOldHungarian : List (Nat × Nat) := [
  (0x205A, 0x205A), (0x205D, 0x205D), (0x2E31, 0x2E31), (0x2E41, 0x2E41), (0x10C80, 0x10CB2),
  (0x10CC0, 0x10CF2), (0x10CFA, 0x10CFF)]

/-- The characters that Old Permic uses. -/
def usedOldPermic : List (Nat × Nat) := [
  (0xB7, 0xB7), (0x300, 0x300), (0x306, 0x308), (0x313, 0x313), (0x483, 0x483), (0x10350, 0x1037A)]

/-- The characters that Old Turkic uses. -/
def usedOldTurkic : List (Nat × Nat) := [
  (0x205A, 0x205A), (0x2E30, 0x2E30), (0x10C00, 0x10C48)]

/-- The characters that Old Uyghur uses. -/
def usedOldUyghur : List (Nat × Nat) := [
  (0x640, 0x640), (0x10AF2, 0x10AF2), (0x10F70, 0x10F89)]

/-- The characters that Oriya uses. -/
def usedOriya : List (Nat × Nat) := [
  (0x951, 0x952), (0x964, 0x965), (0xB01, 0xB03), (0xB05, 0xB0C), (0xB0F, 0xB10), (0xB13, 0xB28),
  (0xB2A, 0xB30), (0xB32, 0xB33), (0xB35, 0xB39), (0xB3C, 0xB44), (0xB47, 0xB48), (0xB4B, 0xB4D),
  (0xB55, 0xB57), (0xB5C, 0xB5D), (0xB5F, 0xB63), (0xB66, 0xB77), (0x1CDA, 0x1CDA),
  (0x1CF2, 0x1CF2)]

/-- The characters that Osage uses. -/
def usedOsage : List (Nat × Nat) := [
  (0x301, 0x301), (0x304, 0x304), (0x30B, 0x30B), (0x358, 0x358), (0x104B0, 0x104D3),
  (0x104D8, 0x104FB)]

/-- The characters that Phags Pa uses. -/
def usedPhagsPa : List (Nat × Nat) := [
  (0x1802, 0x1803), (0x1805, 0x1805), (0x202F, 0x202F), (0x3002, 0x3002), (0xA840, 0xA877)]

/-- The characters that Psalter Pahlavi uses. -/
def usedPsalterPahlavi : List (Nat × Nat) := [
  (0x640, 0x640), (0x10B80, 0x10B91), (0x10B99, 0x10B9C), (0x10BA9, 0x10BAF)]

/-- The characters that Runic uses. -/
def usedRunic : List (Nat × Nat) := [(0x16A0, 0x16F8)]

/-- The characters that Samaritan uses. -/
def usedSamaritan : List (Nat × Nat) := [
  (0x800, 0x82D), (0x830, 0x83E), (0x2E31, 0x2E31)]

/-- The characters that Sharada uses. -/
def usedSharada : List (Nat × Nat) := [
  (0x951, 0x951), (0x1CD7, 0x1CD7), (0x1CD9, 0x1CD9), (0x1CDC, 0x1CDD), (0x1CE0, 0x1CE0),
  (0xA830, 0xA835), (0xA838, 0xA838), (0x11180, 0x111DF)]

/-- The characters that Shavian uses. -/
def usedShavian : List (Nat × Nat) := [(0xB7, 0xB7), (0x10450, 0x1047F)]

/-- The characters that Sinhala uses. -/
def usedSinhala : List (Nat × Nat) := [
  (0x964, 0x965), (0xD81, 0xD83), (0xD85, 0xD96), (0xD9A, 0xDB1), (0xDB3, 0xDBB), (0xDBD, 0xDBD),
  (0xDC0, 0xDC6), (0xDCA, 0xDCA), (0xDCF, 0xDD4), (0xDD6, 0xDD6), (0xDD8, 0xDDF), (0xDE6, 0xDEF),
  (0xDF2, 0xDF4), (0x1CF2, 0x1CF2), (0x111E1, 0x111F4)]

/-- The characters that Sogdian uses. -/
def usedSogdian : List (Nat × Nat) := [(0x640, 0x640), (0x10F30, 0x10F59)]

/-- The characters that Sunuwar uses. -/
def usedSunuwar : List (Nat × Nat) := [
  (0x300, 0x301), (0x303, 0x303), (0x30D, 0x30D), (0x310, 0x310), (0x32D, 0x32D), (0x331, 0x331),
  (0x11BC0, 0x11BE1), (0x11BF0, 0x11BF9)]

/-- The characters that Syloti Nagri uses. -/
def usedSylotiNagri : List (Nat × Nat) := [
  (0x964, 0x965), (0x9E6, 0x9EF), (0xA800, 0xA82C)]

/-- The characters that Syriac uses. -/
def usedSyriac : List (Nat × Nat) := [
  (0x303, 0x304), (0x307, 0x308), (0x30A, 0x30A), (0x320, 0x320), (0x323, 0x325), (0x32D, 0x32E),
  (0x330, 0x330), (0x60C, 0x60C), (0x61B, 0x61C), (0x61F, 0x61F), (0x640, 0x640), (0x64B, 0x655),
  (0x670, 0x670), (0x700, 0x70D), (0x70F, 0x74A), (0x74D, 0x74F), (0x860, 0x86A), (0x1DF8, 0x1DF8),
  (0x1DFA, 0x1DFA)]

/-- The characters that Tagalog uses. -/
def usedTagalog : List (Nat × Nat) := [
  (0x1700, 0x1715), (0x171F, 0x171F), (0x1735, 0x1736)]

/-- The characters that Tagbanwa uses. -/
def usedTagbanwa : List (Nat × Nat) := [
  (0x1735, 0x1736), (0x1760, 0x176C), (0x176E, 0x1770), (0x1772, 0x1773)]

/-- The characters that Tai Le uses. -/
def usedTaiLe : List (Nat × Nat) := [
  (0x300, 0x301), (0x307, 0x308), (0x30C, 0x30C), (0x1040, 0x1049), (0x1950, 0x196D),
  (0x1970, 0x1974)]

/-- The characters that Takri uses. -/
def usedTakri : List (Nat × Nat) := [
  (0x964, 0x965), (0xA830, 0xA839), (0x11680, 0x116B9), (0x116C0, 0x116C9)]

/-- The characters that Tamil uses. -/
def usedTamil : List (Nat × Nat) := [
  (0x951, 0x952), (0x964, 0x965), (0xB82, 0xB83), (0xB85, 0xB8A), (0xB8E, 0xB90), (0xB92, 0xB95),
  (0xB99, 0xB9A), (0xB9C, 0xB9C), (0xB9E, 0xB9F), (0xBA3, 0xBA4), (0xBA8, 0xBAA), (0xBAE, 0xBB9),
  (0xBBE, 0xBC2), (0xBC6, 0xBC8), (0xBCA, 0xBCD), (0xBD0, 0xBD0), (0xBD7, 0xBD7), (0xBE6, 0xBFA),
  (0x1CDA, 0x1CDA), (0xA8F3, 0xA8F3), (0x11301, 0x11301), (0x11303, 0x11303), (0x1133B, 0x1133C),
  (0x11FC0, 0x11FF1), (0x11FFF, 0x11FFF)]

/-- The characters that Tangut uses. -/
def usedTangut : List (Nat × Nat) := [
  (0x2FF0, 0x2FFF), (0x31EF, 0x31EF), (0x16FE0, 0x16FE0), (0x17000, 0x187F7), (0x18800, 0x18AFF),
  (0x18D00, 0x18D08)]

/-- The characters that Telugu uses. -/
def usedTelugu : List (Nat × Nat) := [
  (0x951, 0x952), (0x964, 0x965), (0xC00, 0xC0C), (0xC0E, 0xC10), (0xC12, 0xC28), (0xC2A, 0xC39),
  (0xC3C, 0xC44), (0xC46, 0xC48), (0xC4A, 0xC4D), (0xC55, 0xC56), (0xC58, 0xC5A), (0xC5D, 0xC5D),
  (0xC60, 0xC63), (0xC66, 0xC6F), (0xC77, 0xC7F), (0x1CDA, 0x1CDA), (0x1CF2, 0x1CF2)]

/-- The characters that Thaana uses. -/
def usedThaana : List (Nat × Nat) := [
  (0x60C, 0x60C), (0x61B, 0x61C), (0x61F, 0x61F), (0x660, 0x669), (0x780, 0x7B1), (0xFDF2, 0xFDF2),
  (0xFDFD, 0xFDFD)]

/-- The characters that Thai uses. -/
def usedThai : List (Nat × Nat) := [
  (0x2BC, 0x2BC), (0x2D7, 0x2D7), (0x303, 0x303), (0x331, 0x331), (0xE01, 0xE3A), (0xE40, 0xE5B)]

/-- The characters that Tibetan uses. -/
def usedTibetan : List (Nat × Nat) := [
  (0xF00, 0xF47), (0xF49, 0xF6C), (0xF71, 0xF97), (0xF99, 0xFBC), (0xFBE, 0xFCC), (0xFCE, 0xFD4),
  (0xFD9, 0xFDA), (0x3008, 0x300B)]

/-- The characters that Tifinagh uses. -/
def usedTifinagh : List (Nat × Nat) := [
  (0x302, 0x302), (0x304, 0x304), (0x307, 0x307), (0x309, 0x309), (0x2D30, 0x2D67),
  (0x2D6F, 0x2D70), (0x2D7F, 0x2D7F)]

/-- The characters that Tirhuta uses. -/
def usedTirhuta : List (Nat × Nat) := [
  (0x951, 0x952), (0x964, 0x965), (0x1CF2, 0x1CF2), (0xA830, 0xA839), (0x11480, 0x114C7),
  (0x114D0, 0x114D9)]

/-- The characters that Todhri uses. -/
def usedTodhri : List (Nat × Nat) := [
  (0x301, 0x301), (0x304, 0x304), (0x307, 0x307), (0x311, 0x311), (0x313, 0x313), (0x35E, 0x35E),
  (0x105C0, 0x105F3)]

/-- The characters that Toto uses. -/
def usedToto : List (Nat × Nat) := [(0x2BC, 0x2BC), (0x1E290, 0x1E2AE)]

/-- The characters that Tulu Tigalari uses. -/
def usedTuluTigalari : List (Nat × Nat) := [
  (0xCE6, 0xCEF), (0x1CF2, 0x1CF2), (0x1CF4, 0x1CF4), (0xA830, 0xA835), (0xA8F1, 0xA8F1),
  (0x11380, 0x11389), (0x1138B, 0x1138B), (0x1138E, 0x1138E), (0x11390, 0x113B5),
  (0x113B7, 0x113C0), (0x113C2, 0x113C2), (0x113C5, 0x113C5), (0x113C7, 0x113CA),
  (0x113CC, 0x113D5), (0x113D7, 0x113D8), (0x113E1, 0x113E2)]

/-- The characters that Yezidi uses. -/
def usedYezidi : List (Nat × Nat) := [
  (0x60C, 0x60C), (0x61B, 0x61B), (0x61F, 0x61F), (0x660, 0x669), (0x10E80, 0x10EA9),
  (0x10EAB, 0x10EAD), (0x10EB0, 0x10EB1)]

/-- The characters that Yi uses. -/
def usedYi : List (Nat × Nat) := [
  (0x3001, 0x3002), (0x3008, 0x3011), (0x3014, 0x301B), (0x30FB, 0x30FB), (0xA000, 0xA48C),
  (0xA490, 0xA4C6), (0xFF61, 0xFF65)]

/-- Every script with its names, in lower case and without separators, and the
characters it uses. -/
def scriptExtensions : List (List String × List (Nat × Nat)) := [
  (["adlm", "adlam"], usedAdlam),
  (["ahom"], scriptAhom),
  (["hluw", "anatolianhieroglyphs"], scriptAnatolianHieroglyphs),
  (["arab", "arabic"], usedArabic),
  (["armn", "armenian"], usedArmenian),
  (["avst", "avestan"], usedAvestan),
  (["bali", "balinese"], scriptBalinese),
  (["bamu", "bamum"], scriptBamum),
  (["bass", "bassavah"], scriptBassaVah),
  (["batk", "batak"], scriptBatak),
  (["beng", "bengali"], usedBengali),
  (["bhks", "bhaiksuki"], scriptBhaiksuki),
  (["bopo", "bopomofo"], usedBopomofo),
  (["brah", "brahmi"], scriptBrahmi),
  (["brai", "braille"], scriptBraille),
  (["bugi", "buginese"], usedBuginese),
  (["buhd", "buhid"], usedBuhid),
  (["cans", "canadianaboriginal"], scriptCanadianAboriginal),
  (["cari", "carian"], usedCarian),
  (["aghb", "caucasianalbanian"], usedCaucasianAlbanian),
  (["cakm", "chakma"], usedChakma),
  (["cham"], scriptCham),
  (["cher", "cherokee"], usedCherokee),
  (["chrs", "chorasmian"], scriptChorasmian),
  (["zyyy", "common"], usedCommon),
  (["copt", "qaac", "coptic"], usedCoptic),
  (["xsux", "cuneiform"], scriptCuneiform),
  (["cprt", "cypriot"], usedCypriot),
  (["cpmn", "cyprominoan"], usedCyproMinoan),
  (["cyrl", "cyrillic"], usedCyrillic),
  (["dsrt", "deseret"], scriptDeseret),
  (["deva", "devanagari"], usedDevanagari),
  (["diak", "divesakuru"], scriptDivesAkuru),
  (["dogr", "dogra"], usedDogra),
  (["dupl", "duployan"], usedDuployan),
  (["egyp", "egyptianhieroglyphs"], scriptEgyptianHieroglyphs),
  (["elba", "elbasan"], usedElbasan),
  (["elym", "elymaic"], scriptElymaic),
  (["ethi", "ethiopic"], usedEthiopic),
  (["gara", "garay"], usedGaray),
  (["geor", "georgian"], usedGeorgian),
  (["glag", "glagolitic"], usedGlagolitic),
  (["goth", "gothic"], usedGothic),
  (["gran", "grantha"], usedGrantha),
  (["grek", "greek"], usedGreek),
  (["gujr", "gujarati"], usedGujarati),
  (["gong", "gunjalagondi"], usedGunjalaGondi),
  (["guru", "gurmukhi"], usedGurmukhi),
  (["gukh", "gurungkhema"], usedGurungKhema),
  (["han", "hani"], usedHan),
  (["hang", "hangul"], usedHangul),
  (["rohg", "hanifirohingya"], usedHanifiRohingya),
  (["hano", "hanunoo"], usedHanunoo),
  (["hatr", "hatran"], scriptHatran),
  (["hebr", "hebrew"], usedHebrew),
  (["hira", "hiragana"], usedHiragana),
  (["armi", "imperialaramaic"], scriptImperialAramaic),
  (["qaai", "zinh", "inherited"], usedInherited),
  (["phli", "inscriptionalpahlavi"], scriptInscriptionalPahlavi),
  (["prti", "inscriptionalparthian"], scriptInscriptionalParthian),
  (["java", "javanese"], usedJavanese),
  (["kthi", "kaithi"], usedKaithi),
  (["knda", "kannada"], usedKannada),
  (["kana", "katakana"], usedKatakana),
  (["kawi"], scriptKawi),
  (["kali", "kayahli"], usedKayahLi),
  (["khar", "kharoshthi"], scriptKharoshthi),
  (["kits", "khitansmallscript"], scriptKhitanSmallScript),
  (["khmr", "khmer"], scriptKhmer),
  (["khoj", "khojki"], usedKhojki),
  (["sind", "khudawadi"], usedKhudawadi),
  (["krai", "kiratrai"], scriptKiratRai),
  (["lao", "laoo"], scriptLao),
  (["latn", "latin"], usedLatin),
  (["lepc", "lepcha"], scriptLepcha),
  (["limb", "limbu"], usedLimbu),
  (["lina", "lineara"], usedLinearA),
  (["linb", "linearb"], usedLinearB),
  (["lisu"], usedLisu),
  (["lyci", "lycian"], usedLycian),
  (["lydi", "lydian"], usedLydian),
  (["mahj", "mahajani"], usedMahajani),
  (["maka", "makasar"], scriptMakasar),
  (["mlym", "malayalam"], usedMalayalam),
  (["mand", "mandaic"], usedMandaic),
  (["mani", "manichaean"], usedManichaean),
  (["marc", "marchen"], scriptMarchen),
  (["gonm", "masaramgondi"], usedMasaramGondi),
  (["medf", "medefaidrin"], scriptMedefaidrin),
  (["mtei", "meeteimayek"], scriptMeeteiMayek),
  (["mend", "mendekikakui"], scriptMendeKikakui),
  (["merc", "meroiticcursive"], scriptMeroiticCursive),
  (["mero", "meroitichieroglyphs"], usedMeroiticHieroglyphs),
  (["miao", "plrd"], scriptMiao),
  (["modi"], usedModi),
  (["mong", "mongolian"], usedMongolian),
  (["mro", "mroo"], scriptMro),
  (["mult", "multani"], usedMultani),
  (["mymr", "myanmar"], usedMyanmar),
  (["nbat", "nabataean"], scriptNabataean),
  (["nagm", "nagmundari"], scriptNagMundari),
  (["nand", "nandinagari"], usedNandinagari),
  (["talu", "newtailue"], scriptNewTaiLue),
  (["newa"], scriptNewa),
  (["nko", "nkoo"], usedNko),
  (["nshu", "nushu"], scriptNushu),
  (["hmnp", "nyiakengpuachuehmong"], scriptNyiakengPuachueHmong),
  (["ogam", "ogham"], scriptOgham),
  (["olck", "olchiki"], scriptOlChiki),
  (["onao", "olonal"], usedOlOnal),
  (["hung", "oldhungarian"], usedOldHungarian),
  (["ital", "olditalic"], scriptOldItalic),
  (["narb", "oldnortharabian"], scriptOldNorthArabian),
  (["perm", "oldpermic"], usedOldPermic),
  (["xpeo", "oldpersian"], scriptOldPersian),
  (["sogo", "oldsogdian"], scriptOldSogdian),
  (["sarb", "oldsoutharabian"], scriptOldSouthArabian),
  (["orkh", "oldturkic"], usedOldTurkic),
  (["ougr", "olduyghur"], usedOldUyghur),
  (["orya", "oriya"], usedOriya),
  (["osge", "osage"], usedOsage),
  (["osma", "osmanya"], scriptOsmanya),
  (["hmng", "pahawhhmong"], scriptPahawhHmong),
  (["palm", "palmyrene"], scriptPalmyrene),
  (["pauc", "paucinhau"], scriptPauCinHau),
  (["phag", "phagspa"], usedPhagsPa),
  (["phnx", "phoenician"], scriptPhoenician),
  (["phlp", "psalterpahlavi"], usedPsalterPahlavi),
  (["rjng", "rejang"], scriptRejang),
  (["runr", "runic"], usedRunic),
  (["samr", "samaritan"], usedSamaritan),
  (["saur", "saurashtra"], scriptSaurashtra),
  (["shrd", "sharada"], usedSharada),
  (["shaw", "shavian"], usedShavian),
  (["sidd", "siddham"], scriptSiddham),
  (["sgnw", "signwriting"], scriptSignWriting),
  (["sinh", "sinhala"], usedSinhala),
  (["sogd", "sogdian"], usedSogdian),
  (["sora", "sorasompeng"], scriptSoraSompeng),
  (["soyo", "soyombo"], scriptSoyombo),
  (["sund", "sundanese"], scriptSundanese),
  (["sunu", "sunuwar"], usedSunuwar),
  (["sylo", "sylotinagri"], usedSylotiNagri),
  (["syrc", "syriac"], usedSyriac),
  (["tglg", "tagalog"], usedTagalog),
  (["tagb", "tagbanwa"], usedTagbanwa),
  (["tale", "taile"], usedTaiLe),
  (["lana", "taitham"], scriptTaiTham),
  (["tavt", "taiviet"], scriptTaiViet),
  (["takr", "takri"], usedTakri),
  (["taml", "tamil"], usedTamil),
  (["tnsa", "tangsa"], scriptTangsa),
  (["tang", "tangut"], usedTangut),
  (["telu", "telugu"], usedTelugu),
  (["thaa", "thaana"], usedThaana),
  (["thai"], usedThai),
  (["tibt", "tibetan"], usedTibetan),
  (["tfng", "tifinagh"], usedTifinagh),
  (["tirh", "tirhuta"], usedTirhuta),
  (["todr", "todhri"], usedTodhri),
  (["toto"], usedToto),
  (["tutg", "tulutigalari"], usedTuluTigalari),
  (["ugar", "ugaritic"], scriptUgaritic),
  (["vai", "vaii"], scriptVai),
  (["vith", "vithkuqi"], scriptVithkuqi),
  (["wcho", "wancho"], scriptWancho),
  (["wara", "warangciti"], scriptWarangCiti),
  (["yezi", "yezidi"], usedYezidi),
  (["yi", "yiii"], usedYi),
  (["zanb", "zanabazarsquare"], scriptZanabazarSquare)]

end AccessDecision.Unicode
