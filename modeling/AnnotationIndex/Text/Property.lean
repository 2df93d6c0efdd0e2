import AnnotationIndex.Text.Category

/-!
# Binary properties

The Unicode properties that a character has or has not. Most of them are tables; the others are
derived from tables and from the general categories.
-/

namespace AnnotationIndex.Text.Property

def otherAlphabetic : List Span :=
  [(0x345, 0x345, 1), (0x363, 0x36F, 1), (0x5B0, 0x5BD, 1), (0x5BF, 0x5BF, 1), (0x5C1, 0x5C2, 1),
   (0x5C4, 0x5C5, 1), (0x5C7, 0x5C7, 1), (0x610, 0x61A, 1), (0x64B, 0x657, 1), (0x659, 0x65F, 1),
   (0x670, 0x670, 1), (0x6D6, 0x6DC, 1), (0x6E1, 0x6E4, 1), (0x6E7, 0x6E8, 1), (0x6ED, 0x6ED, 1),
   (0x711, 0x711, 1), (0x730, 0x73F, 1), (0x7A6, 0x7B0, 1), (0x816, 0x817, 1), (0x81B, 0x823, 1),
   (0x825, 0x827, 1), (0x829, 0x82C, 1), (0x897, 0x897, 1), (0x8D4, 0x8DF, 1), (0x8E3, 0x8E9, 1),
   (0x8F0, 0x903, 1), (0x93A, 0x93B, 1), (0x93E, 0x94C, 1), (0x94E, 0x94F, 1), (0x955, 0x957, 1),
   (0x962, 0x963, 1), (0x981, 0x983, 1), (0x9BE, 0x9C4, 1), (0x9C7, 0x9C8, 1), (0x9CB, 0x9CC, 1),
   (0x9D7, 0x9D7, 1), (0x9E2, 0x9E3, 1), (0xA01, 0xA03, 1), (0xA3E, 0xA42, 1), (0xA47, 0xA48, 1),
   (0xA4B, 0xA4C, 1), (0xA51, 0xA51, 1), (0xA70, 0xA71, 1), (0xA75, 0xA75, 1), (0xA81, 0xA83, 1),
   (0xABE, 0xAC5, 1), (0xAC7, 0xAC9, 1), (0xACB, 0xACC, 1), (0xAE2, 0xAE3, 1), (0xAFA, 0xAFC, 1),
   (0xB01, 0xB03, 1), (0xB3E, 0xB44, 1), (0xB47, 0xB48, 1), (0xB4B, 0xB4C, 1), (0xB56, 0xB57, 1),
   (0xB62, 0xB63, 1), (0xB82, 0xB82, 1), (0xBBE, 0xBC2, 1), (0xBC6, 0xBC8, 1), (0xBCA, 0xBCC, 1),
   (0xBD7, 0xBD7, 1), (0xC00, 0xC04, 1), (0xC3E, 0xC44, 1), (0xC46, 0xC48, 1), (0xC4A, 0xC4C, 1),
   (0xC55, 0xC56, 1), (0xC62, 0xC63, 1), (0xC81, 0xC83, 1), (0xCBE, 0xCC4, 1), (0xCC6, 0xCC8, 1),
   (0xCCA, 0xCCC, 1), (0xCD5, 0xCD6, 1), (0xCE2, 0xCE3, 1), (0xCF3, 0xCF3, 1), (0xD00, 0xD03, 1),
   (0xD3E, 0xD44, 1), (0xD46, 0xD48, 1), (0xD4A, 0xD4C, 1), (0xD57, 0xD57, 1), (0xD62, 0xD63, 1),
   (0xD81, 0xD83, 1), (0xDCF, 0xDD4, 1), (0xDD6, 0xDD6, 1), (0xDD8, 0xDDF, 1), (0xDF2, 0xDF3, 1),
   (0xE31, 0xE31, 1), (0xE34, 0xE3A, 1), (0xE4D, 0xE4D, 1), (0xEB1, 0xEB1, 1), (0xEB4, 0xEB9, 1),
   (0xEBB, 0xEBC, 1), (0xECD, 0xECD, 1), (0xF71, 0xF83, 1), (0xF8D, 0xF97, 1), (0xF99, 0xFBC, 1),
   (0x102B, 0x1036, 1), (0x1038, 0x1038, 1), (0x103B, 0x103E, 1), (0x1056, 0x1059, 1),
   (0x105E, 0x1060, 1), (0x1062, 0x1064, 1), (0x1067, 0x106D, 1), (0x1071, 0x1074, 1),
   (0x1082, 0x108D, 1), (0x108F, 0x108F, 1), (0x109A, 0x109D, 1), (0x1712, 0x1713, 1),
   (0x1732, 0x1733, 1), (0x1752, 0x1753, 1), (0x1772, 0x1773, 1), (0x17B6, 0x17C8, 1),
   (0x1885, 0x1886, 1), (0x18A9, 0x18A9, 1), (0x1920, 0x192B, 1), (0x1930, 0x1938, 1),
   (0x1A17, 0x1A1B, 1), (0x1A55, 0x1A5E, 1), (0x1A61, 0x1A74, 1), (0x1ABF, 0x1AC0, 1),
   (0x1ACC, 0x1ACE, 1), (0x1B00, 0x1B04, 1), (0x1B35, 0x1B43, 1), (0x1B80, 0x1B82, 1),
   (0x1BA1, 0x1BA9, 1), (0x1BAC, 0x1BAD, 1), (0x1BE7, 0x1BF1, 1), (0x1C24, 0x1C36, 1),
   (0x1DD3, 0x1DF4, 1), (0x24B6, 0x24E9, 1), (0x2DE0, 0x2DFF, 1), (0xA674, 0xA67B, 1),
   (0xA69E, 0xA69F, 1), (0xA802, 0xA802, 1), (0xA80B, 0xA80B, 1), (0xA823, 0xA827, 1),
   (0xA880, 0xA881, 1), (0xA8B4, 0xA8C3, 1), (0xA8C5, 0xA8C5, 1), (0xA8FF, 0xA8FF, 1),
   (0xA926, 0xA92A, 1), (0xA947, 0xA952, 1), (0xA980, 0xA983, 1), (0xA9B4, 0xA9BF, 1),
   (0xA9E5, 0xA9E5, 1), (0xAA29, 0xAA36, 1), (0xAA43, 0xAA43, 1), (0xAA4C, 0xAA4D, 1),
   (0xAA7B, 0xAA7D, 1), (0xAAB0, 0xAAB0, 1), (0xAAB2, 0xAAB4, 1), (0xAAB7, 0xAAB8, 1),
   (0xAABE, 0xAABE, 1), (0xAAEB, 0xAAEF, 1), (0xAAF5, 0xAAF5, 1), (0xABE3, 0xABEA, 1),
   (0xFB1E, 0xFB1E, 1), (0x10376, 0x1037A, 1), (0x10A01, 0x10A03, 1), (0x10A05, 0x10A06, 1),
   (0x10A0C, 0x10A0F, 1), (0x10D24, 0x10D27, 1), (0x10D69, 0x10D69, 1), (0x10EAB, 0x10EAC, 1),
   (0x10EFC, 0x10EFC, 1), (0x11000, 0x11002, 1), (0x11038, 0x11045, 1), (0x11073, 0x11074, 1),
   (0x11080, 0x11082, 1), (0x110B0, 0x110B8, 1), (0x110C2, 0x110C2, 1), (0x11100, 0x11102, 1),
   (0x11127, 0x11132, 1), (0x11145, 0x11146, 1), (0x11180, 0x11182, 1), (0x111B3, 0x111BF, 1),
   (0x111CE, 0x111CF, 1), (0x1122C, 0x11234, 1), (0x11237, 0x11237, 1), (0x1123E, 0x1123E, 1),
   (0x11241, 0x11241, 1), (0x112DF, 0x112E8, 1), (0x11300, 0x11303, 1), (0x1133E, 0x11344, 1),
   (0x11347, 0x11348, 1), (0x1134B, 0x1134C, 1), (0x11357, 0x11357, 1), (0x11362, 0x11363, 1),
   (0x113B8, 0x113C0, 1), (0x113C2, 0x113C2, 1), (0x113C5, 0x113C5, 1), (0x113C7, 0x113CA, 1),
   (0x113CC, 0x113CD, 1), (0x11435, 0x11441, 1), (0x11443, 0x11445, 1), (0x114B0, 0x114C1, 1),
   (0x115AF, 0x115B5, 1), (0x115B8, 0x115BE, 1), (0x115DC, 0x115DD, 1), (0x11630, 0x1163E, 1),
   (0x11640, 0x11640, 1), (0x116AB, 0x116B5, 1), (0x1171D, 0x1172A, 1), (0x1182C, 0x11838, 1),
   (0x11930, 0x11935, 1), (0x11937, 0x11938, 1), (0x1193B, 0x1193C, 1), (0x11940, 0x11942, 2),
   (0x119D1, 0x119D7, 1), (0x119DA, 0x119DF, 1), (0x119E4, 0x119E4, 1), (0x11A01, 0x11A0A, 1),
   (0x11A35, 0x11A39, 1), (0x11A3B, 0x11A3E, 1), (0x11A51, 0x11A5B, 1), (0x11A8A, 0x11A97, 1),
   (0x11C2F, 0x11C36, 1), (0x11C38, 0x11C3E, 1), (0x11C92, 0x11CA7, 1), (0x11CA9, 0x11CB6, 1),
   (0x11D31, 0x11D36, 1), (0x11D3A, 0x11D3A, 1), (0x11D3C, 0x11D3D, 1), (0x11D3F, 0x11D41, 1),
   (0x11D43, 0x11D43, 1), (0x11D47, 0x11D47, 1), (0x11D8A, 0x11D8E, 1), (0x11D90, 0x11D91, 1),
   (0x11D93, 0x11D96, 1), (0x11EF3, 0x11EF6, 1), (0x11F00, 0x11F01, 1), (0x11F03, 0x11F03, 1),
   (0x11F34, 0x11F3A, 1), (0x11F3E, 0x11F40, 1), (0x1611E, 0x1612E, 1), (0x16F4F, 0x16F4F, 1),
   (0x16F51, 0x16F87, 1), (0x16F8F, 0x16F92, 1), (0x16FF0, 0x16FF1, 1), (0x1BC9E, 0x1BC9E, 1),
   (0x1E000, 0x1E006, 1), (0x1E008, 0x1E018, 1), (0x1E01B, 0x1E021, 1), (0x1E023, 0x1E024, 1),
   (0x1E026, 0x1E02A, 1), (0x1E08F, 0x1E08F, 1), (0x1E947, 0x1E947, 1), (0x1F130, 0x1F149, 1),
   (0x1F150, 0x1F169, 1), (0x1F170, 0x1F189, 1)]

def otherLowercase : List Span :=
  [(0xAA, 0xAA, 1), (0xBA, 0xBA, 1), (0x2B0, 0x2B8, 1), (0x2C0, 0x2C1, 1), (0x2E0, 0x2E4, 1),
   (0x345, 0x345, 1), (0x37A, 0x37A, 1), (0x10FC, 0x10FC, 1), (0x1D2C, 0x1D6A, 1),
   (0x1D78, 0x1D78, 1), (0x1D9B, 0x1DBF, 1), (0x2071, 0x2071, 1), (0x207F, 0x207F, 1),
   (0x2090, 0x209C, 1), (0x2170, 0x217F, 1), (0x24D0, 0x24E9, 1), (0x2C7C, 0x2C7D, 1),
   (0xA69C, 0xA69D, 1), (0xA770, 0xA770, 1), (0xA7F2, 0xA7F4, 1), (0xA7F8, 0xA7F9, 1),
   (0xAB5C, 0xAB5F, 1), (0xAB69, 0xAB69, 1), (0x10780, 0x10780, 1), (0x10783, 0x10785, 1),
   (0x10787, 0x107B0, 1), (0x107B2, 0x107BA, 1), (0x1E030, 0x1E06D, 1)]

def otherUppercase : List Span :=
  [(0x2160, 0x216F, 1), (0x24B6, 0x24CF, 1), (0x1F130, 0x1F149, 1), (0x1F150, 0x1F169, 1),
   (0x1F170, 0x1F189, 1)]

def otherMath : List Span :=
  [(0x5E, 0x5E, 1), (0x3D0, 0x3D2, 1), (0x3D5, 0x3D5, 1), (0x3F0, 0x3F1, 1), (0x3F4, 0x3F5, 1),
   (0x2016, 0x2016, 1), (0x2032, 0x2034, 1), (0x2040, 0x2040, 1), (0x2061, 0x2064, 1),
   (0x207D, 0x207E, 1), (0x208D, 0x208E, 1), (0x20D0, 0x20DC, 1), (0x20E1, 0x20E1, 1),
   (0x20E5, 0x20E6, 1), (0x20EB, 0x20EF, 1), (0x2102, 0x2102, 1), (0x2107, 0x2107, 1),
   (0x210A, 0x2113, 1), (0x2115, 0x2115, 1), (0x2119, 0x211D, 1), (0x2124, 0x2124, 1),
   (0x2128, 0x2129, 1), (0x212C, 0x212D, 1), (0x212F, 0x2131, 1), (0x2133, 0x2138, 1),
   (0x213C, 0x213F, 1), (0x2145, 0x2149, 1), (0x2195, 0x2199, 1), (0x219C, 0x219F, 1),
   (0x21A1, 0x21A2, 1), (0x21A4, 0x21A5, 1), (0x21A7, 0x21A7, 1), (0x21A9, 0x21AD, 1),
   (0x21B0, 0x21B1, 1), (0x21B6, 0x21B7, 1), (0x21BC, 0x21CD, 1), (0x21D0, 0x21D1, 1),
   (0x21D3, 0x21D3, 1), (0x21D5, 0x21DB, 1), (0x21DD, 0x21DD, 1), (0x21E4, 0x21E5, 1),
   (0x2308, 0x230B, 1), (0x23B4, 0x23B5, 1), (0x23B7, 0x23B7, 1), (0x23D0, 0x23D0, 1),
   (0x23E2, 0x23E2, 1), (0x25A0, 0x25A1, 1), (0x25AE, 0x25B6, 1), (0x25BC, 0x25C0, 1),
   (0x25C6, 0x25C7, 1), (0x25CA, 0x25CB, 1), (0x25CF, 0x25D3, 1), (0x25E2, 0x25E4, 2),
   (0x25E7, 0x25EC, 1), (0x2605, 0x2606, 1), (0x2640, 0x2642, 2), (0x2660, 0x2663, 1),
   (0x266D, 0x266E, 1), (0x27C5, 0x27C6, 1), (0x27E6, 0x27EF, 1), (0x2983, 0x2998, 1),
   (0x29D8, 0x29DB, 1), (0x29FC, 0x29FD, 1), (0xFE61, 0xFE63, 2), (0xFE68, 0xFE68, 1),
   (0xFF3C, 0xFF3E, 2), (0x1D400, 0x1D454, 1), (0x1D456, 0x1D49C, 1), (0x1D49E, 0x1D49F, 1),
   (0x1D4A2, 0x1D4A2, 1), (0x1D4A5, 0x1D4A6, 1), (0x1D4A9, 0x1D4AC, 1), (0x1D4AE, 0x1D4B9, 1),
   (0x1D4BB, 0x1D4BB, 1), (0x1D4BD, 0x1D4C3, 1), (0x1D4C5, 0x1D505, 1), (0x1D507, 0x1D50A, 1),
   (0x1D50D, 0x1D514, 1), (0x1D516, 0x1D51C, 1), (0x1D51E, 0x1D539, 1), (0x1D53B, 0x1D53E, 1),
   (0x1D540, 0x1D544, 1), (0x1D546, 0x1D546, 1), (0x1D54A, 0x1D550, 1), (0x1D552, 0x1D6A5, 1),
   (0x1D6A8, 0x1D6C0, 1), (0x1D6C2, 0x1D6DA, 1), (0x1D6DC, 0x1D6FA, 1), (0x1D6FC, 0x1D714, 1),
   (0x1D716, 0x1D734, 1), (0x1D736, 0x1D74E, 1), (0x1D750, 0x1D76E, 1), (0x1D770, 0x1D788, 1),
   (0x1D78A, 0x1D7A8, 1), (0x1D7AA, 0x1D7C2, 1), (0x1D7C4, 0x1D7CB, 1), (0x1D7CE, 0x1D7FF, 1),
   (0x1EE00, 0x1EE03, 1), (0x1EE05, 0x1EE1F, 1), (0x1EE21, 0x1EE22, 1), (0x1EE24, 0x1EE24, 1),
   (0x1EE27, 0x1EE27, 1), (0x1EE29, 0x1EE32, 1), (0x1EE34, 0x1EE37, 1), (0x1EE39, 0x1EE3B, 2),
   (0x1EE42, 0x1EE42, 1), (0x1EE47, 0x1EE4B, 2), (0x1EE4D, 0x1EE4F, 1), (0x1EE51, 0x1EE52, 1),
   (0x1EE54, 0x1EE54, 1), (0x1EE57, 0x1EE5F, 2), (0x1EE61, 0x1EE62, 1), (0x1EE64, 0x1EE64, 1),
   (0x1EE67, 0x1EE6A, 1), (0x1EE6C, 0x1EE72, 1), (0x1EE74, 0x1EE77, 1), (0x1EE79, 0x1EE7C, 1),
   (0x1EE7E, 0x1EE7E, 1), (0x1EE80, 0x1EE89, 1), (0x1EE8B, 0x1EE9B, 1), (0x1EEA1, 0x1EEA3, 1),
   (0x1EEA5, 0x1EEA9, 1), (0x1EEAB, 0x1EEBB, 1)]

def otherGraphemeExtend : List Span :=
  [(0x9BE, 0x9BE, 1), (0x9D7, 0x9D7, 1), (0xB3E, 0xB3E, 1), (0xB57, 0xB57, 1), (0xBBE, 0xBBE, 1),
   (0xBD7, 0xBD7, 1), (0xCC0, 0xCC2, 2), (0xCC7, 0xCC8, 1), (0xCCA, 0xCCB, 1), (0xCD5, 0xCD6, 1),
   (0xD3E, 0xD3E, 1), (0xD57, 0xD57, 1), (0xDCF, 0xDCF, 1), (0xDDF, 0xDDF, 1), (0x1715, 0x1715, 1),
   (0x1734, 0x1734, 1), (0x1B35, 0x1B35, 1), (0x1B3B, 0x1B3D, 2), (0x1B43, 0x1B44, 1),
   (0x1BAA, 0x1BAA, 1), (0x1BF2, 0x1BF3, 1), (0x200C, 0x200C, 1), (0x302E, 0x302F, 1),
   (0xA953, 0xA953, 1), (0xA9C0, 0xA9C0, 1), (0xFF9E, 0xFF9F, 1), (0x111C0, 0x111C0, 1),
   (0x11235, 0x11235, 1), (0x1133E, 0x1133E, 1), (0x1134D, 0x1134D, 1), (0x11357, 0x11357, 1),
   (0x113B8, 0x113B8, 1), (0x113C2, 0x113C2, 1), (0x113C5, 0x113C5, 1), (0x113C7, 0x113C9, 1),
   (0x113CF, 0x113CF, 1), (0x114B0, 0x114B0, 1), (0x114BD, 0x114BD, 1), (0x115AF, 0x115AF, 1),
   (0x116B6, 0x116B6, 1), (0x11930, 0x11930, 1), (0x1193D, 0x1193D, 1), (0x11F41, 0x11F41, 1),
   (0x16FF0, 0x16FF1, 1), (0x1D165, 0x1D166, 1), (0x1D16D, 0x1D172, 1), (0xE0020, 0xE007F, 1)]

def otherIdStart : List Span :=
  [(0x1885, 0x1886, 1), (0x2118, 0x2118, 1), (0x212E, 0x212E, 1), (0x309B, 0x309C, 1)]

def otherIdContinue : List Span :=
  [(0xB7, 0xB7, 1), (0x387, 0x387, 1), (0x1369, 0x1371, 1), (0x19DA, 0x19DA, 1),
   (0x200C, 0x200D, 1), (0x30FB, 0x30FB, 1), (0xFF65, 0xFF65, 1)]

def otherDefaultIgnorable : List Span :=
  [(0x34F, 0x34F, 1), (0x115F, 0x1160, 1), (0x17B4, 0x17B5, 1), (0x2065, 0x2065, 1),
   (0x3164, 0x3164, 1), (0xFFA0, 0xFFA0, 1), (0xFFF0, 0xFFF8, 1), (0xE0000, 0xE0000, 1),
   (0xE0002, 0xE001F, 1), (0xE0080, 0xE00FF, 1), (0xE01F0, 0xE0FFF, 1)]

def bidiControl : List Span :=
  [(0x61C, 0x61C, 1), (0x200E, 0x200F, 1), (0x202A, 0x202E, 1), (0x2066, 0x2069, 1)]

def bidiMirrored : List Span :=
  [(0x28, 0x29, 1), (0x3C, 0x3E, 2), (0x5B, 0x5D, 2), (0x7B, 0x7D, 2), (0xAB, 0xAB, 1),
   (0xBB, 0xBB, 1), (0xF3A, 0xF3D, 1), (0x169B, 0x169C, 1), (0x2039, 0x203A, 1),
   (0x2045, 0x2046, 1), (0x207D, 0x207E, 1), (0x208D, 0x208E, 1), (0x2140, 0x2140, 1),
   (0x2201, 0x2204, 1), (0x2208, 0x220D, 1), (0x2211, 0x2211, 1), (0x2215, 0x2216, 1),
   (0x221A, 0x221D, 1), (0x221F, 0x2222, 1), (0x2224, 0x2226, 2), (0x222B, 0x2233, 1),
   (0x2239, 0x2239, 1), (0x223B, 0x224C, 1), (0x2252, 0x2255, 1), (0x225F, 0x2260, 1),
   (0x2262, 0x2262, 1), (0x2264, 0x226B, 1), (0x226D, 0x228C, 1), (0x228F, 0x2292, 1),
   (0x2298, 0x2298, 1), (0x22A2, 0x22A3, 1), (0x22A6, 0x22B8, 1), (0x22BE, 0x22BF, 1),
   (0x22C9, 0x22CD, 1), (0x22D0, 0x22D1, 1), (0x22D6, 0x22ED, 1), (0x22F0, 0x22FF, 1),
   (0x2308, 0x230B, 1), (0x2320, 0x2321, 1), (0x2329, 0x232A, 1), (0x2768, 0x2775, 1),
   (0x27C0, 0x27C0, 1), (0x27C3, 0x27C6, 1), (0x27C8, 0x27C9, 1), (0x27CB, 0x27CD, 1),
   (0x27D3, 0x27D6, 1), (0x27DC, 0x27DE, 1), (0x27E2, 0x27EF, 1), (0x2983, 0x2998, 1),
   (0x299B, 0x29A0, 1), (0x29A2, 0x29AF, 1), (0x29B8, 0x29B8, 1), (0x29C0, 0x29C5, 1),
   (0x29C9, 0x29C9, 1), (0x29CE, 0x29D2, 1), (0x29D4, 0x29D5, 1), (0x29D8, 0x29DC, 1),
   (0x29E1, 0x29E1, 1), (0x29E3, 0x29E5, 1), (0x29E8, 0x29E9, 1), (0x29F4, 0x29F9, 1),
   (0x29FC, 0x29FD, 1), (0x2A0A, 0x2A1C, 1), (0x2A1E, 0x2A21, 1), (0x2A24, 0x2A26, 2),
   (0x2A29, 0x2A29, 1), (0x2A2B, 0x2A2E, 1), (0x2A34, 0x2A35, 1), (0x2A3C, 0x2A3E, 1),
   (0x2A57, 0x2A58, 1), (0x2A64, 0x2A65, 1), (0x2A6A, 0x2A6D, 1), (0x2A6F, 0x2A70, 1),
   (0x2A73, 0x2A74, 1), (0x2A79, 0x2AA3, 1), (0x2AA6, 0x2AAD, 1), (0x2AAF, 0x2AD6, 1),
   (0x2ADC, 0x2ADE, 2), (0x2AE2, 0x2AE6, 1), (0x2AEC, 0x2AEE, 1), (0x2AF3, 0x2AF3, 1),
   (0x2AF7, 0x2AFB, 1), (0x2AFD, 0x2AFD, 1), (0x2BFE, 0x2BFE, 1), (0x2E02, 0x2E05, 1),
   (0x2E09, 0x2E0A, 1), (0x2E0C, 0x2E0D, 1), (0x2E1C, 0x2E1D, 1), (0x2E20, 0x2E29, 1),
   (0x2E55, 0x2E5C, 1), (0x3008, 0x3011, 1), (0x3014, 0x301B, 1), (0xFE59, 0xFE5E, 1),
   (0xFE64, 0xFE65, 1), (0xFF08, 0xFF09, 1), (0xFF1C, 0xFF1E, 2), (0xFF3B, 0xFF3D, 2),
   (0xFF5B, 0xFF5D, 2), (0xFF5F, 0xFF60, 1), (0xFF62, 0xFF63, 1), (0x1D6DB, 0x1D6DB, 1),
   (0x1D715, 0x1D715, 1), (0x1D74F, 0x1D74F, 1), (0x1D789, 0x1D789, 1), (0x1D7C3, 0x1D7C3, 1)]

def changesWhenCasefolded : List Span :=
  [(0x41, 0x5A, 1), (0xB5, 0xB5, 1), (0xC0, 0xD6, 1), (0xD8, 0xDF, 1), (0x100, 0x136, 2),
   (0x139, 0x147, 2), (0x149, 0x14A, 1), (0x14C, 0x176, 2), (0x178, 0x179, 1), (0x17B, 0x17F, 2),
   (0x181, 0x182, 1), (0x184, 0x184, 1), (0x186, 0x187, 1), (0x189, 0x18B, 1), (0x18E, 0x191, 1),
   (0x193, 0x194, 1), (0x196, 0x198, 1), (0x19C, 0x19D, 1), (0x19F, 0x1A0, 1), (0x1A2, 0x1A4, 2),
   (0x1A6, 0x1A7, 1), (0x1A9, 0x1A9, 1), (0x1AC, 0x1AC, 1), (0x1AE, 0x1AF, 1), (0x1B1, 0x1B3, 1),
   (0x1B5, 0x1B5, 1), (0x1B7, 0x1B8, 1), (0x1BC, 0x1BC, 1), (0x1C4, 0x1C5, 1), (0x1C7, 0x1C8, 1),
   (0x1CA, 0x1CB, 1), (0x1CD, 0x1DB, 2), (0x1DE, 0x1EE, 2), (0x1F1, 0x1F2, 1), (0x1F4, 0x1F4, 1),
   (0x1F6, 0x1F8, 1), (0x1FA, 0x232, 2), (0x23A, 0x23B, 1), (0x23D, 0x23E, 1), (0x241, 0x241, 1),
   (0x243, 0x246, 1), (0x248, 0x24E, 2), (0x345, 0x345, 1), (0x370, 0x372, 2), (0x376, 0x376, 1),
   (0x37F, 0x37F, 1), (0x386, 0x386, 1), (0x388, 0x38A, 1), (0x38C, 0x38C, 1), (0x38E, 0x38F, 1),
   (0x391, 0x3A1, 1), (0x3A3, 0x3AB, 1), (0x3C2, 0x3C2, 1), (0x3CF, 0x3D1, 1), (0x3D5, 0x3D6, 1),
   (0x3D8, 0x3EE, 2), (0x3F0, 0x3F1, 1), (0x3F4, 0x3F5, 1), (0x3F7, 0x3F7, 1), (0x3F9, 0x3FA, 1),
   (0x3FD, 0x42F, 1), (0x460, 0x480, 2), (0x48A, 0x4BE, 2), (0x4C0, 0x4C1, 1), (0x4C3, 0x4CD, 2),
   (0x4D0, 0x52E, 2), (0x531, 0x556, 1), (0x587, 0x587, 1), (0x10A0, 0x10C5, 1),
   (0x10C7, 0x10C7, 1), (0x10CD, 0x10CD, 1), (0x13F8, 0x13FD, 1), (0x1C80, 0x1C89, 1),
   (0x1C90, 0x1CBA, 1), (0x1CBD, 0x1CBF, 1), (0x1E00, 0x1E94, 2), (0x1E9A, 0x1E9B, 1),
   (0x1E9E, 0x1EFE, 2), (0x1F08, 0x1F0F, 1), (0x1F18, 0x1F1D, 1), (0x1F28, 0x1F2F, 1),
   (0x1F38, 0x1F3F, 1), (0x1F48, 0x1F4D, 1), (0x1F59, 0x1F5F, 2), (0x1F68, 0x1F6F, 1),
   (0x1F80, 0x1FAF, 1), (0x1FB2, 0x1FB4, 1), (0x1FB7, 0x1FBC, 1), (0x1FC2, 0x1FC4, 1),
   (0x1FC7, 0x1FCC, 1), (0x1FD8, 0x1FDB, 1), (0x1FE8, 0x1FEC, 1), (0x1FF2, 0x1FF4, 1),
   (0x1FF7, 0x1FFC, 1), (0x2126, 0x2126, 1), (0x212A, 0x212B, 1), (0x2132, 0x2132, 1),
   (0x2160, 0x216F, 1), (0x2183, 0x2183, 1), (0x24B6, 0x24CF, 1), (0x2C00, 0x2C2F, 1),
   (0x2C60, 0x2C60, 1), (0x2C62, 0x2C64, 1), (0x2C67, 0x2C6B, 2), (0x2C6D, 0x2C70, 1),
   (0x2C72, 0x2C72, 1), (0x2C75, 0x2C75, 1), (0x2C7E, 0x2C80, 1), (0x2C82, 0x2CE2, 2),
   (0x2CEB, 0x2CED, 2), (0x2CF2, 0x2CF2, 1), (0xA640, 0xA66C, 2), (0xA680, 0xA69A, 2),
   (0xA722, 0xA72E, 2), (0xA732, 0xA76E, 2), (0xA779, 0xA77B, 2), (0xA77D, 0xA77E, 1),
   (0xA780, 0xA786, 2), (0xA78B, 0xA78D, 2), (0xA790, 0xA792, 2), (0xA796, 0xA7A8, 2),
   (0xA7AA, 0xA7AE, 1), (0xA7B0, 0xA7B4, 1), (0xA7B6, 0xA7C2, 2), (0xA7C4, 0xA7C7, 1),
   (0xA7C9, 0xA7C9, 1), (0xA7CB, 0xA7CC, 1), (0xA7D0, 0xA7D0, 1), (0xA7D6, 0xA7DC, 2),
   (0xA7F5, 0xA7F5, 1), (0xAB70, 0xABBF, 1), (0xFB00, 0xFB06, 1), (0xFB13, 0xFB17, 1),
   (0xFF21, 0xFF3A, 1), (0x10400, 0x10427, 1), (0x104B0, 0x104D3, 1), (0x10570, 0x1057A, 1),
   (0x1057C, 0x1058A, 1), (0x1058C, 0x10592, 1), (0x10594, 0x10595, 1), (0x10C80, 0x10CB2, 1),
   (0x10D50, 0x10D65, 1), (0x118A0, 0x118BF, 1), (0x16E40, 0x16E5F, 1), (0x1E900, 0x1E921, 1)]

def changesWhenLowercased : List Span :=
  [(0x41, 0x5A, 1), (0xC0, 0xD6, 1), (0xD8, 0xDE, 1), (0x100, 0x136, 2), (0x139, 0x147, 2),
   (0x14A, 0x176, 2), (0x178, 0x179, 1), (0x17B, 0x17D, 2), (0x181, 0x182, 1), (0x184, 0x184, 1),
   (0x186, 0x187, 1), (0x189, 0x18B, 1), (0x18E, 0x191, 1), (0x193, 0x194, 1), (0x196, 0x198, 1),
   (0x19C, 0x19D, 1), (0x19F, 0x1A0, 1), (0x1A2, 0x1A4, 2), (0x1A6, 0x1A7, 1), (0x1A9, 0x1A9, 1),
   (0x1AC, 0x1AC, 1), (0x1AE, 0x1AF, 1), (0x1B1, 0x1B3, 1), (0x1B5, 0x1B5, 1), (0x1B7, 0x1B8, 1),
   (0x1BC, 0x1BC, 1), (0x1C4, 0x1C5, 1), (0x1C7, 0x1C8, 1), (0x1CA, 0x1CB, 1), (0x1CD, 0x1DB, 2),
   (0x1DE, 0x1EE, 2), (0x1F1, 0x1F2, 1), (0x1F4, 0x1F4, 1), (0x1F6, 0x1F8, 1), (0x1FA, 0x232, 2),
   (0x23A, 0x23B, 1), (0x23D, 0x23E, 1), (0x241, 0x241, 1), (0x243, 0x246, 1), (0x248, 0x24E, 2),
   (0x370, 0x372, 2), (0x376, 0x376, 1), (0x37F, 0x37F, 1), (0x386, 0x386, 1), (0x388, 0x38A, 1),
   (0x38C, 0x38C, 1), (0x38E, 0x38F, 1), (0x391, 0x3A1, 1), (0x3A3, 0x3AB, 1), (0x3CF, 0x3CF, 1),
   (0x3D8, 0x3EE, 2), (0x3F4, 0x3F4, 1), (0x3F7, 0x3F7, 1), (0x3F9, 0x3FA, 1), (0x3FD, 0x42F, 1),
   (0x460, 0x480, 2), (0x48A, 0x4BE, 2), (0x4C0, 0x4C1, 1), (0x4C3, 0x4CD, 2), (0x4D0, 0x52E, 2),
   (0x531, 0x556, 1), (0x10A0, 0x10C5, 1), (0x10C7, 0x10C7, 1), (0x10CD, 0x10CD, 1),
   (0x13A0, 0x13F5, 1), (0x1C89, 0x1C89, 1), (0x1C90, 0x1CBA, 1), (0x1CBD, 0x1CBF, 1),
   (0x1E00, 0x1E94, 2), (0x1E9E, 0x1EFE, 2), (0x1F08, 0x1F0F, 1), (0x1F18, 0x1F1D, 1),
   (0x1F28, 0x1F2F, 1), (0x1F38, 0x1F3F, 1), (0x1F48, 0x1F4D, 1), (0x1F59, 0x1F5F, 2),
   (0x1F68, 0x1F6F, 1), (0x1F88, 0x1F8F, 1), (0x1F98, 0x1F9F, 1), (0x1FA8, 0x1FAF, 1),
   (0x1FB8, 0x1FBC, 1), (0x1FC8, 0x1FCC, 1), (0x1FD8, 0x1FDB, 1), (0x1FE8, 0x1FEC, 1),
   (0x1FF8, 0x1FFC, 1), (0x2126, 0x2126, 1), (0x212A, 0x212B, 1), (0x2132, 0x2132, 1),
   (0x2160, 0x216F, 1), (0x2183, 0x2183, 1), (0x24B6, 0x24CF, 1), (0x2C00, 0x2C2F, 1),
   (0x2C60, 0x2C60, 1), (0x2C62, 0x2C64, 1), (0x2C67, 0x2C6B, 2), (0x2C6D, 0x2C70, 1),
   (0x2C72, 0x2C72, 1), (0x2C75, 0x2C75, 1), (0x2C7E, 0x2C80, 1), (0x2C82, 0x2CE2, 2),
   (0x2CEB, 0x2CED, 2), (0x2CF2, 0x2CF2, 1), (0xA640, 0xA66C, 2), (0xA680, 0xA69A, 2),
   (0xA722, 0xA72E, 2), (0xA732, 0xA76E, 2), (0xA779, 0xA77B, 2), (0xA77D, 0xA77E, 1),
   (0xA780, 0xA786, 2), (0xA78B, 0xA78D, 2), (0xA790, 0xA792, 2), (0xA796, 0xA7A8, 2),
   (0xA7AA, 0xA7AE, 1), (0xA7B0, 0xA7B4, 1), (0xA7B6, 0xA7C2, 2), (0xA7C4, 0xA7C7, 1),
   (0xA7C9, 0xA7C9, 1), (0xA7CB, 0xA7CC, 1), (0xA7D0, 0xA7D0, 1), (0xA7D6, 0xA7DC, 2),
   (0xA7F5, 0xA7F5, 1), (0xFF21, 0xFF3A, 1), (0x10400, 0x10427, 1), (0x104B0, 0x104D3, 1),
   (0x10570, 0x1057A, 1), (0x1057C, 0x1058A, 1), (0x1058C, 0x10592, 1), (0x10594, 0x10595, 1),
   (0x10C80, 0x10CB2, 1), (0x10D50, 0x10D65, 1), (0x118A0, 0x118BF, 1), (0x16E40, 0x16E5F, 1),
   (0x1E900, 0x1E921, 1)]

def changesWhenTitlecased : List Span :=
  [(0x61, 0x7A, 1), (0xB5, 0xB5, 1), (0xDF, 0xF6, 1), (0xF8, 0xFF, 1), (0x101, 0x137, 2),
   (0x13A, 0x146, 2), (0x148, 0x149, 1), (0x14B, 0x177, 2), (0x17A, 0x17C, 2), (0x17E, 0x180, 1),
   (0x183, 0x185, 2), (0x188, 0x188, 1), (0x18C, 0x18C, 1), (0x192, 0x192, 1), (0x195, 0x195, 1),
   (0x199, 0x19B, 1), (0x19E, 0x19E, 1), (0x1A1, 0x1A5, 2), (0x1A8, 0x1A8, 1), (0x1AD, 0x1AD, 1),
   (0x1B0, 0x1B0, 1), (0x1B4, 0x1B6, 2), (0x1B9, 0x1B9, 1), (0x1BD, 0x1BF, 2), (0x1C4, 0x1C4, 1),
   (0x1C6, 0x1C7, 1), (0x1C9, 0x1CA, 1), (0x1CC, 0x1DA, 2), (0x1DC, 0x1DD, 1), (0x1DF, 0x1ED, 2),
   (0x1EF, 0x1F1, 1), (0x1F3, 0x1F5, 2), (0x1F9, 0x21F, 2), (0x223, 0x233, 2), (0x23C, 0x23C, 1),
   (0x23F, 0x240, 1), (0x242, 0x242, 1), (0x247, 0x24D, 2), (0x24F, 0x254, 1), (0x256, 0x257, 1),
   (0x259, 0x259, 1), (0x25B, 0x25C, 1), (0x260, 0x261, 1), (0x263, 0x266, 1), (0x268, 0x26C, 1),
   (0x26F, 0x26F, 1), (0x271, 0x272, 1), (0x275, 0x275, 1), (0x27D, 0x27D, 1), (0x280, 0x280, 1),
   (0x282, 0x283, 1), (0x287, 0x28C, 1), (0x292, 0x292, 1), (0x29D, 0x29E, 1), (0x345, 0x345, 1),
   (0x371, 0x373, 2), (0x377, 0x377, 1), (0x37B, 0x37D, 1), (0x390, 0x390, 1), (0x3AC, 0x3CE, 1),
   (0x3D0, 0x3D1, 1), (0x3D5, 0x3D7, 1), (0x3D9, 0x3ED, 2), (0x3EF, 0x3F3, 1), (0x3F5, 0x3F5, 1),
   (0x3F8, 0x3F8, 1), (0x3FB, 0x3FB, 1), (0x430, 0x45F, 1), (0x461, 0x481, 2), (0x48B, 0x4BF, 2),
   (0x4C2, 0x4CC, 2), (0x4CE, 0x4CF, 1), (0x4D1, 0x52F, 2), (0x561, 0x587, 1), (0x13F8, 0x13FD, 1),
   (0x1C80, 0x1C88, 1), (0x1C8A, 0x1C8A, 1), (0x1D79, 0x1D79, 1), (0x1D7D, 0x1D7D, 1),
   (0x1D8E, 0x1D8E, 1), (0x1E01, 0x1E93, 2), (0x1E95, 0x1E9B, 1), (0x1EA1, 0x1EFD, 2),
   (0x1EFF, 0x1F07, 1), (0x1F10, 0x1F15, 1), (0x1F20, 0x1F27, 1), (0x1F30, 0x1F37, 1),
   (0x1F40, 0x1F45, 1), (0x1F50, 0x1F57, 1), (0x1F60, 0x1F67, 1), (0x1F70, 0x1F7D, 1),
   (0x1F80, 0x1F87, 1), (0x1F90, 0x1F97, 1), (0x1FA0, 0x1FA7, 1), (0x1FB0, 0x1FB4, 1),
   (0x1FB6, 0x1FB7, 1), (0x1FBE, 0x1FBE, 1), (0x1FC2, 0x1FC4, 1), (0x1FC6, 0x1FC7, 1),
   (0x1FD0, 0x1FD3, 1), (0x1FD6, 0x1FD7, 1), (0x1FE0, 0x1FE7, 1), (0x1FF2, 0x1FF4, 1),
   (0x1FF6, 0x1FF7, 1), (0x214E, 0x214E, 1), (0x2170, 0x217F, 1), (0x2184, 0x2184, 1),
   (0x24D0, 0x24E9, 1), (0x2C30, 0x2C5F, 1), (0x2C61, 0x2C61, 1), (0x2C65, 0x2C66, 1),
   (0x2C68, 0x2C6C, 2), (0x2C73, 0x2C73, 1), (0x2C76, 0x2C76, 1), (0x2C81, 0x2CE3, 2),
   (0x2CEC, 0x2CEE, 2), (0x2CF3, 0x2CF3, 1), (0x2D00, 0x2D25, 1), (0x2D27, 0x2D27, 1),
   (0x2D2D, 0x2D2D, 1), (0xA641, 0xA66D, 2), (0xA681, 0xA69B, 2), (0xA723, 0xA72F, 2),
   (0xA733, 0xA76F, 2), (0xA77A, 0xA77C, 2), (0xA77F, 0xA787, 2), (0xA78C, 0xA78C, 1),
   (0xA791, 0xA791, 1), (0xA793, 0xA794, 1), (0xA797, 0xA7A9, 2), (0xA7B5, 0xA7C3, 2),
   (0xA7C8, 0xA7CA, 2), (0xA7CD, 0xA7CD, 1), (0xA7D1, 0xA7D1, 1), (0xA7D7, 0xA7DB, 2),
   (0xA7F6, 0xA7F6, 1), (0xAB53, 0xAB53, 1), (0xAB70, 0xABBF, 1), (0xFB00, 0xFB06, 1),
   (0xFB13, 0xFB17, 1), (0xFF41, 0xFF5A, 1), (0x10428, 0x1044F, 1), (0x104D8, 0x104FB, 1),
   (0x10597, 0x105A1, 1), (0x105A3, 0x105B1, 1), (0x105B3, 0x105B9, 1), (0x105BB, 0x105BC, 1),
   (0x10CC0, 0x10CF2, 1), (0x10D70, 0x10D85, 1), (0x118C0, 0x118DF, 1), (0x16E60, 0x16E7F, 1),
   (0x1E922, 0x1E943, 1)]

def changesWhenUppercased : List Span :=
  [(0x61, 0x7A, 1), (0xB5, 0xB5, 1), (0xDF, 0xF6, 1), (0xF8, 0xFF, 1), (0x101, 0x137, 2),
   (0x13A, 0x146, 2), (0x148, 0x149, 1), (0x14B, 0x177, 2), (0x17A, 0x17C, 2), (0x17E, 0x180, 1),
   (0x183, 0x185, 2), (0x188, 0x188, 1), (0x18C, 0x18C, 1), (0x192, 0x192, 1), (0x195, 0x195, 1),
   (0x199, 0x19B, 1), (0x19E, 0x19E, 1), (0x1A1, 0x1A5, 2), (0x1A8, 0x1A8, 1), (0x1AD, 0x1AD, 1),
   (0x1B0, 0x1B0, 1), (0x1B4, 0x1B6, 2), (0x1B9, 0x1B9, 1), (0x1BD, 0x1BF, 2), (0x1C5, 0x1C6, 1),
   (0x1C8, 0x1C9, 1), (0x1CB, 0x1CC, 1), (0x1CE, 0x1DA, 2), (0x1DC, 0x1DD, 1), (0x1DF, 0x1ED, 2),
   (0x1EF, 0x1F0, 1), (0x1F2, 0x1F3, 1), (0x1F5, 0x1F5, 1), (0x1F9, 0x21F, 2), (0x223, 0x233, 2),
   (0x23C, 0x23C, 1), (0x23F, 0x240, 1), (0x242, 0x242, 1), (0x247, 0x24D, 2), (0x24F, 0x254, 1),
   (0x256, 0x257, 1), (0x259, 0x259, 1), (0x25B, 0x25C, 1), (0x260, 0x261, 1), (0x263, 0x266, 1),
   (0x268, 0x26C, 1), (0x26F, 0x26F, 1), (0x271, 0x272, 1), (0x275, 0x275, 1), (0x27D, 0x27D, 1),
   (0x280, 0x280, 1), (0x282, 0x283, 1), (0x287, 0x28C, 1), (0x292, 0x292, 1), (0x29D, 0x29E, 1),
   (0x345, 0x345, 1), (0x371, 0x373, 2), (0x377, 0x377, 1), (0x37B, 0x37D, 1), (0x390, 0x390, 1),
   (0x3AC, 0x3CE, 1), (0x3D0, 0x3D1, 1), (0x3D5, 0x3D7, 1), (0x3D9, 0x3ED, 2), (0x3EF, 0x3F3, 1),
   (0x3F5, 0x3F5, 1), (0x3F8, 0x3F8, 1), (0x3FB, 0x3FB, 1), (0x430, 0x45F, 1), (0x461, 0x481, 2),
   (0x48B, 0x4BF, 2), (0x4C2, 0x4CC, 2), (0x4CE, 0x4CF, 1), (0x4D1, 0x52F, 2), (0x561, 0x587, 1),
   (0x10D0, 0x10FA, 1), (0x10FD, 0x10FF, 1), (0x13F8, 0x13FD, 1), (0x1C80, 0x1C88, 1),
   (0x1C8A, 0x1C8A, 1), (0x1D79, 0x1D79, 1), (0x1D7D, 0x1D7D, 1), (0x1D8E, 0x1D8E, 1),
   (0x1E01, 0x1E93, 2), (0x1E95, 0x1E9B, 1), (0x1EA1, 0x1EFD, 2), (0x1EFF, 0x1F07, 1),
   (0x1F10, 0x1F15, 1), (0x1F20, 0x1F27, 1), (0x1F30, 0x1F37, 1), (0x1F40, 0x1F45, 1),
   (0x1F50, 0x1F57, 1), (0x1F60, 0x1F67, 1), (0x1F70, 0x1F7D, 1), (0x1F80, 0x1FB4, 1),
   (0x1FB6, 0x1FB7, 1), (0x1FBC, 0x1FBE, 2), (0x1FC2, 0x1FC4, 1), (0x1FC6, 0x1FC7, 1),
   (0x1FCC, 0x1FCC, 1), (0x1FD0, 0x1FD3, 1), (0x1FD6, 0x1FD7, 1), (0x1FE0, 0x1FE7, 1),
   (0x1FF2, 0x1FF4, 1), (0x1FF6, 0x1FF7, 1), (0x1FFC, 0x1FFC, 1), (0x214E, 0x214E, 1),
   (0x2170, 0x217F, 1), (0x2184, 0x2184, 1), (0x24D0, 0x24E9, 1), (0x2C30, 0x2C5F, 1),
   (0x2C61, 0x2C61, 1), (0x2C65, 0x2C66, 1), (0x2C68, 0x2C6C, 2), (0x2C73, 0x2C73, 1),
   (0x2C76, 0x2C76, 1), (0x2C81, 0x2CE3, 2), (0x2CEC, 0x2CEE, 2), (0x2CF3, 0x2CF3, 1),
   (0x2D00, 0x2D25, 1), (0x2D27, 0x2D27, 1), (0x2D2D, 0x2D2D, 1), (0xA641, 0xA66D, 2),
   (0xA681, 0xA69B, 2), (0xA723, 0xA72F, 2), (0xA733, 0xA76F, 2), (0xA77A, 0xA77C, 2),
   (0xA77F, 0xA787, 2), (0xA78C, 0xA78C, 1), (0xA791, 0xA791, 1), (0xA793, 0xA794, 1),
   (0xA797, 0xA7A9, 2), (0xA7B5, 0xA7C3, 2), (0xA7C8, 0xA7CA, 2), (0xA7CD, 0xA7CD, 1),
   (0xA7D1, 0xA7D1, 1), (0xA7D7, 0xA7DB, 2), (0xA7F6, 0xA7F6, 1), (0xAB53, 0xAB53, 1),
   (0xAB70, 0xABBF, 1), (0xFB00, 0xFB06, 1), (0xFB13, 0xFB17, 1), (0xFF41, 0xFF5A, 1),
   (0x10428, 0x1044F, 1), (0x104D8, 0x104FB, 1), (0x10597, 0x105A1, 1), (0x105A3, 0x105B1, 1),
   (0x105B3, 0x105B9, 1), (0x105BB, 0x105BC, 1), (0x10CC0, 0x10CF2, 1), (0x10D70, 0x10D85, 1),
   (0x118C0, 0x118DF, 1), (0x16E60, 0x16E7F, 1), (0x1E922, 0x1E943, 1)]

def dash : List Span :=
  [(0x2D, 0x2D, 1), (0x58A, 0x58A, 1), (0x5BE, 0x5BE, 1), (0x1400, 0x1400, 1), (0x1806, 0x1806, 1),
   (0x2010, 0x2015, 1), (0x2053, 0x2053, 1), (0x207B, 0x207B, 1), (0x208B, 0x208B, 1),
   (0x2212, 0x2212, 1), (0x2E17, 0x2E17, 1), (0x2E1A, 0x2E1A, 1), (0x2E3A, 0x2E3B, 1),
   (0x2E40, 0x2E40, 1), (0x2E5D, 0x2E5D, 1), (0x301C, 0x301C, 1), (0x3030, 0x3030, 1),
   (0x30A0, 0x30A0, 1), (0xFE31, 0xFE32, 1), (0xFE58, 0xFE58, 1), (0xFE63, 0xFE63, 1),
   (0xFF0D, 0xFF0D, 1), (0x10D6E, 0x10D6E, 1), (0x10EAD, 0x10EAD, 1)]

def deprecatedCodes : List Span :=
  [(0x149, 0x149, 1), (0x673, 0x673, 1), (0xF77, 0xF79, 2), (0x17A3, 0x17A4, 1),
   (0x206A, 0x206F, 1), (0x2329, 0x232A, 1), (0xE0001, 0xE0001, 1)]

def diacritic : List Span :=
  [(0x5E, 0x60, 2), (0xA8, 0xA8, 1), (0xAF, 0xAF, 1), (0xB4, 0xB4, 1), (0xB7, 0xB8, 1),
   (0x2B0, 0x34E, 1), (0x350, 0x357, 1), (0x35D, 0x362, 1), (0x374, 0x375, 1), (0x37A, 0x37A, 1),
   (0x384, 0x385, 1), (0x483, 0x487, 1), (0x559, 0x559, 1), (0x591, 0x5BD, 1), (0x5BF, 0x5BF, 1),
   (0x5C1, 0x5C2, 1), (0x5C4, 0x5C5, 1), (0x5C7, 0x5C7, 1), (0x64B, 0x652, 1), (0x657, 0x658, 1),
   (0x6DF, 0x6E0, 1), (0x6E5, 0x6E6, 1), (0x6EA, 0x6EC, 1), (0x730, 0x74A, 1), (0x7A6, 0x7B0, 1),
   (0x7EB, 0x7F5, 1), (0x818, 0x819, 1), (0x898, 0x89F, 1), (0x8C9, 0x8D2, 1), (0x8E3, 0x8FE, 1),
   (0x93C, 0x93C, 1), (0x94D, 0x94D, 1), (0x951, 0x954, 1), (0x971, 0x971, 1), (0x9BC, 0x9BC, 1),
   (0x9CD, 0x9CD, 1), (0xA3C, 0xA3C, 1), (0xA4D, 0xA4D, 1), (0xABC, 0xABC, 1), (0xACD, 0xACD, 1),
   (0xAFD, 0xAFF, 1), (0xB3C, 0xB3C, 1), (0xB4D, 0xB4D, 1), (0xB55, 0xB55, 1), (0xBCD, 0xBCD, 1),
   (0xC3C, 0xC3C, 1), (0xC4D, 0xC4D, 1), (0xCBC, 0xCBC, 1), (0xCCD, 0xCCD, 1), (0xD3B, 0xD3C, 1),
   (0xD4D, 0xD4D, 1), (0xDCA, 0xDCA, 1), (0xE3A, 0xE3A, 1), (0xE47, 0xE4C, 1), (0xE4E, 0xE4E, 1),
   (0xEBA, 0xEBA, 1), (0xEC8, 0xECC, 1), (0xF18, 0xF19, 1), (0xF35, 0xF39, 2), (0xF3E, 0xF3F, 1),
   (0xF82, 0xF84, 1), (0xF86, 0xF87, 1), (0xFC6, 0xFC6, 1), (0x1037, 0x1037, 1),
   (0x1039, 0x103A, 1), (0x1063, 0x1064, 1), (0x1069, 0x106D, 1), (0x1087, 0x108D, 1),
   (0x108F, 0x108F, 1), (0x109A, 0x109B, 1), (0x135D, 0x135F, 1), (0x1714, 0x1715, 1),
   (0x1734, 0x1734, 1), (0x17C9, 0x17D3, 1), (0x17DD, 0x17DD, 1), (0x1939, 0x193B, 1),
   (0x1A60, 0x1A60, 1), (0x1A75, 0x1A7C, 1), (0x1A7F, 0x1A7F, 1), (0x1AB0, 0x1ABE, 1),
   (0x1AC1, 0x1ACB, 1), (0x1B34, 0x1B34, 1), (0x1B44, 0x1B44, 1), (0x1B6B, 0x1B73, 1),
   (0x1BAA, 0x1BAB, 1), (0x1BE6, 0x1BE6, 1), (0x1BF2, 0x1BF3, 1), (0x1C36, 0x1C37, 1),
   (0x1C78, 0x1C7D, 1), (0x1CD0, 0x1CE8, 1), (0x1CED, 0x1CED, 1), (0x1CF4, 0x1CF4, 1),
   (0x1CF7, 0x1CF9, 1), (0x1D2C, 0x1D6A, 1), (0x1D9B, 0x1DBE, 1), (0x1DC4, 0x1DCF, 1),
   (0x1DF5, 0x1DFF, 1), (0x1FBD, 0x1FBD, 1), (0x1FBF, 0x1FC1, 1), (0x1FCD, 0x1FCF, 1),
   (0x1FDD, 0x1FDF, 1), (0x1FED, 0x1FEF, 1), (0x1FFD, 0x1FFE, 1), (0x2CEF, 0x2CF1, 1),
   (0x2E2F, 0x2E2F, 1), (0x302A, 0x302F, 1), (0x3099, 0x309C, 1), (0x30FC, 0x30FC, 1),
   (0xA66F, 0xA66F, 1), (0xA67C, 0xA67D, 1), (0xA67F, 0xA67F, 1), (0xA69C, 0xA69D, 1),
   (0xA6F0, 0xA6F1, 1), (0xA700, 0xA721, 1), (0xA788, 0xA78A, 1), (0xA7F8, 0xA7F9, 1),
   (0xA806, 0xA806, 1), (0xA82C, 0xA82C, 1), (0xA8C4, 0xA8C4, 1), (0xA8E0, 0xA8F1, 1),
   (0xA92B, 0xA92E, 1), (0xA953, 0xA953, 1), (0xA9B3, 0xA9B3, 1), (0xA9C0, 0xA9C0, 1),
   (0xA9E5, 0xA9E5, 1), (0xAA7B, 0xAA7D, 1), (0xAABF, 0xAAC2, 1), (0xAAF6, 0xAAF6, 1),
   (0xAB5B, 0xAB5F, 1), (0xAB69, 0xAB6B, 1), (0xABEC, 0xABED, 1), (0xFB1E, 0xFB1E, 1),
   (0xFE20, 0xFE2F, 1), (0xFF3E, 0xFF40, 2), (0xFF70, 0xFF70, 1), (0xFF9E, 0xFF9F, 1),
   (0xFFE3, 0xFFE3, 1), (0x102E0, 0x102E0, 1), (0x10780, 0x10785, 1), (0x10787, 0x107B0, 1),
   (0x107B2, 0x107BA, 1), (0x10A38, 0x10A3A, 1), (0x10A3F, 0x10A3F, 1), (0x10AE5, 0x10AE6, 1),
   (0x10D22, 0x10D27, 1), (0x10D4E, 0x10D4E, 1), (0x10D69, 0x10D6D, 1), (0x10EFD, 0x10EFF, 1),
   (0x10F46, 0x10F50, 1), (0x10F82, 0x10F85, 1), (0x11046, 0x11046, 1), (0x11070, 0x11070, 1),
   (0x110B9, 0x110BA, 1), (0x11133, 0x11134, 1), (0x11173, 0x11173, 1), (0x111C0, 0x111C0, 1),
   (0x111CA, 0x111CC, 1), (0x11235, 0x11236, 1), (0x112E9, 0x112EA, 1), (0x1133B, 0x1133C, 1),
   (0x1134D, 0x1134D, 1), (0x11366, 0x1136C, 1), (0x11370, 0x11374, 1), (0x113CE, 0x113D0, 1),
   (0x113D2, 0x113D3, 1), (0x113E1, 0x113E2, 1), (0x11442, 0x11442, 1), (0x11446, 0x11446, 1),
   (0x114C2, 0x114C3, 1), (0x115BF, 0x115C0, 1), (0x1163F, 0x1163F, 1), (0x116B6, 0x116B7, 1),
   (0x1172B, 0x1172B, 1), (0x11839, 0x1183A, 1), (0x1193D, 0x1193E, 1), (0x11943, 0x11943, 1),
   (0x119E0, 0x119E0, 1), (0x11A34, 0x11A34, 1), (0x11A47, 0x11A47, 1), (0x11A99, 0x11A99, 1),
   (0x11C3F, 0x11C3F, 1), (0x11D42, 0x11D42, 1), (0x11D44, 0x11D45, 1), (0x11D97, 0x11D97, 1),
   (0x11F41, 0x11F42, 1), (0x11F5A, 0x11F5A, 1), (0x13447, 0x13455, 1), (0x1612F, 0x1612F, 1),
   (0x16AF0, 0x16AF4, 1), (0x16B30, 0x16B36, 1), (0x16D6B, 0x16D6C, 1), (0x16F8F, 0x16F9F, 1),
   (0x16FF0, 0x16FF1, 1), (0x1AFF0, 0x1AFF3, 1), (0x1AFF5, 0x1AFFB, 1), (0x1AFFD, 0x1AFFE, 1),
   (0x1CF00, 0x1CF2D, 1), (0x1CF30, 0x1CF46, 1), (0x1D167, 0x1D169, 1), (0x1D16D, 0x1D172, 1),
   (0x1D17B, 0x1D182, 1), (0x1D185, 0x1D18B, 1), (0x1D1AA, 0x1D1AD, 1), (0x1E030, 0x1E06D, 1),
   (0x1E130, 0x1E136, 1), (0x1E2AE, 0x1E2AE, 1), (0x1E2EC, 0x1E2EF, 1), (0x1E5EE, 0x1E5EF, 1),
   (0x1E8D0, 0x1E8D6, 1), (0x1E944, 0x1E946, 1), (0x1E948, 0x1E94A, 1)]

def emoji : List Span :=
  [(0x23, 0x23, 1), (0x2A, 0x2A, 1), (0x30, 0x39, 1), (0xA9, 0xA9, 1), (0xAE, 0xAE, 1),
   (0x203C, 0x203C, 1), (0x2049, 0x2049, 1), (0x2122, 0x2122, 1), (0x2139, 0x2139, 1),
   (0x2194, 0x2199, 1), (0x21A9, 0x21AA, 1), (0x231A, 0x231B, 1), (0x2328, 0x2328, 1),
   (0x23CF, 0x23CF, 1), (0x23E9, 0x23F3, 1), (0x23F8, 0x23FA, 1), (0x24C2, 0x24C2, 1),
   (0x25AA, 0x25AB, 1), (0x25B6, 0x25B6, 1), (0x25C0, 0x25C0, 1), (0x25FB, 0x25FE, 1),
   (0x2600, 0x2604, 1), (0x260E, 0x260E, 1), (0x2611, 0x2611, 1), (0x2614, 0x2615, 1),
   (0x2618, 0x2618, 1), (0x261D, 0x261D, 1), (0x2620, 0x2620, 1), (0x2622, 0x2623, 1),
   (0x2626, 0x2626, 1), (0x262A, 0x262A, 1), (0x262E, 0x262F, 1), (0x2638, 0x263A, 1),
   (0x2640, 0x2642, 2), (0x2648, 0x2653, 1), (0x265F, 0x2660, 1), (0x2663, 0x2663, 1),
   (0x2665, 0x2666, 1), (0x2668, 0x2668, 1), (0x267B, 0x267B, 1), (0x267E, 0x267F, 1),
   (0x2692, 0x2697, 1), (0x2699, 0x2699, 1), (0x269B, 0x269C, 1), (0x26A0, 0x26A1, 1),
   (0x26A7, 0x26A7, 1), (0x26AA, 0x26AB, 1), (0x26B0, 0x26B1, 1), (0x26BD, 0x26BE, 1),
   (0x26C4, 0x26C5, 1), (0x26C8, 0x26C8, 1), (0x26CE, 0x26CF, 1), (0x26D1, 0x26D1, 1),
   (0x26D3, 0x26D4, 1), (0x26E9, 0x26EA, 1), (0x26F0, 0x26F5, 1), (0x26F7, 0x26FA, 1),
   (0x26FD, 0x26FD, 1), (0x2702, 0x2702, 1), (0x2705, 0x2705, 1), (0x2708, 0x270D, 1),
   (0x270F, 0x270F, 1), (0x2712, 0x2716, 2), (0x271D, 0x271D, 1), (0x2721, 0x2721, 1),
   (0x2728, 0x2728, 1), (0x2733, 0x2734, 1), (0x2744, 0x2744, 1), (0x2747, 0x2747, 1),
   (0x274C, 0x274E, 2), (0x2753, 0x2755, 1), (0x2757, 0x2757, 1), (0x2763, 0x2764, 1),
   (0x2795, 0x2797, 1), (0x27A1, 0x27A1, 1), (0x27B0, 0x27B0, 1), (0x27BF, 0x27BF, 1),
   (0x2934, 0x2935, 1), (0x2B05, 0x2B07, 1), (0x2B1B, 0x2B1C, 1), (0x2B50, 0x2B50, 1),
   (0x2B55, 0x2B55, 1), (0x3030, 0x3030, 1), (0x303D, 0x303D, 1), (0x3297, 0x3299, 2),
   (0x1F004, 0x1F004, 1), (0x1F0CF, 0x1F0CF, 1), (0x1F170, 0x1F171, 1), (0x1F17E, 0x1F17F, 1),
   (0x1F18E, 0x1F18E, 1), (0x1F191, 0x1F19A, 1), (0x1F1E6, 0x1F1FF, 1), (0x1F201, 0x1F202, 1),
   (0x1F21A, 0x1F21A, 1), (0x1F22F, 0x1F22F, 1), (0x1F232, 0x1F23A, 1), (0x1F250, 0x1F251, 1),
   (0x1F300, 0x1F321, 1), (0x1F324, 0x1F393, 1), (0x1F396, 0x1F397, 1), (0x1F399, 0x1F39B, 1),
   (0x1F39E, 0x1F3F0, 1), (0x1F3F3, 0x1F3F5, 1), (0x1F3F7, 0x1F4FD, 1), (0x1F4FF, 0x1F53D, 1),
   (0x1F549, 0x1F54E, 1), (0x1F550, 0x1F567, 1), (0x1F56F, 0x1F570, 1), (0x1F573, 0x1F57A, 1),
   (0x1F587, 0x1F587, 1), (0x1F58A, 0x1F58D, 1), (0x1F590, 0x1F590, 1), (0x1F595, 0x1F596, 1),
   (0x1F5A4, 0x1F5A5, 1), (0x1F5A8, 0x1F5A8, 1), (0x1F5B1, 0x1F5B2, 1), (0x1F5BC, 0x1F5BC, 1),
   (0x1F5C2, 0x1F5C4, 1), (0x1F5D1, 0x1F5D3, 1), (0x1F5DC, 0x1F5DE, 1), (0x1F5E1, 0x1F5E3, 2),
   (0x1F5E8, 0x1F5E8, 1), (0x1F5EF, 0x1F5EF, 1), (0x1F5F3, 0x1F5F3, 1), (0x1F5FA, 0x1F64F, 1),
   (0x1F680, 0x1F6C5, 1), (0x1F6CB, 0x1F6D2, 1), (0x1F6D5, 0x1F6D7, 1), (0x1F6DC, 0x1F6E5, 1),
   (0x1F6E9, 0x1F6E9, 1), (0x1F6EB, 0x1F6EC, 1), (0x1F6F0, 0x1F6F0, 1), (0x1F6F3, 0x1F6FC, 1),
   (0x1F7E0, 0x1F7EB, 1), (0x1F7F0, 0x1F7F0, 1), (0x1F90C, 0x1F93A, 1), (0x1F93C, 0x1F945, 1),
   (0x1F947, 0x1F9FF, 1), (0x1FA70, 0x1FA7C, 1), (0x1FA80, 0x1FA89, 1), (0x1FA8F, 0x1FAC6, 1),
   (0x1FACE, 0x1FADC, 1), (0x1FADF, 0x1FAE9, 1), (0x1FAF0, 0x1FAF8, 1)]

def emojiComponent : List Span :=
  [(0x23, 0x23, 1), (0x2A, 0x2A, 1), (0x30, 0x39, 1), (0x200D, 0x200D, 1), (0x20E3, 0x20E3, 1),
   (0xFE0F, 0xFE0F, 1), (0x1F1E6, 0x1F1FF, 1), (0x1F3FB, 0x1F3FF, 1), (0x1F9B0, 0x1F9B3, 1),
   (0xE0020, 0xE007F, 1)]

def emojiModifier : List Span :=
  [(0x1F3FB, 0x1F3FF, 1)]

def emojiModifierBase : List Span :=
  [(0x261D, 0x261D, 1), (0x26F9, 0x26F9, 1), (0x270A, 0x270D, 1), (0x1F385, 0x1F385, 1),
   (0x1F3C2, 0x1F3C4, 1), (0x1F3C7, 0x1F3C7, 1), (0x1F3CA, 0x1F3CC, 1), (0x1F442, 0x1F443, 1),
   (0x1F446, 0x1F450, 1), (0x1F466, 0x1F478, 1), (0x1F47C, 0x1F47C, 1), (0x1F481, 0x1F483, 1),
   (0x1F485, 0x1F487, 1), (0x1F48F, 0x1F491, 2), (0x1F4AA, 0x1F4AA, 1), (0x1F574, 0x1F575, 1),
   (0x1F57A, 0x1F57A, 1), (0x1F590, 0x1F590, 1), (0x1F595, 0x1F596, 1), (0x1F645, 0x1F647, 1),
   (0x1F64B, 0x1F64F, 1), (0x1F6A3, 0x1F6A3, 1), (0x1F6B4, 0x1F6B6, 1), (0x1F6C0, 0x1F6C0, 1),
   (0x1F6CC, 0x1F6CC, 1), (0x1F90C, 0x1F90C, 1), (0x1F90F, 0x1F90F, 1), (0x1F918, 0x1F91F, 1),
   (0x1F926, 0x1F926, 1), (0x1F930, 0x1F939, 1), (0x1F93C, 0x1F93E, 1), (0x1F977, 0x1F977, 1),
   (0x1F9B5, 0x1F9B6, 1), (0x1F9B8, 0x1F9B9, 1), (0x1F9BB, 0x1F9BB, 1), (0x1F9CD, 0x1F9CF, 1),
   (0x1F9D1, 0x1F9DD, 1), (0x1FAC3, 0x1FAC5, 1), (0x1FAF0, 0x1FAF8, 1)]

def emojiPresentation : List Span :=
  [(0x231A, 0x231B, 1), (0x23E9, 0x23EC, 1), (0x23F0, 0x23F0, 1), (0x23F3, 0x23F3, 1),
   (0x25FD, 0x25FE, 1), (0x2614, 0x2615, 1), (0x2648, 0x2653, 1), (0x267F, 0x267F, 1),
   (0x2693, 0x2693, 1), (0x26A1, 0x26A1, 1), (0x26AA, 0x26AB, 1), (0x26BD, 0x26BE, 1),
   (0x26C4, 0x26C5, 1), (0x26CE, 0x26CE, 1), (0x26D4, 0x26D4, 1), (0x26EA, 0x26EA, 1),
   (0x26F2, 0x26F3, 1), (0x26F5, 0x26F5, 1), (0x26FA, 0x26FA, 1), (0x26FD, 0x26FD, 1),
   (0x2705, 0x2705, 1), (0x270A, 0x270B, 1), (0x2728, 0x2728, 1), (0x274C, 0x274E, 2),
   (0x2753, 0x2755, 1), (0x2757, 0x2757, 1), (0x2795, 0x2797, 1), (0x27B0, 0x27B0, 1),
   (0x27BF, 0x27BF, 1), (0x2B1B, 0x2B1C, 1), (0x2B50, 0x2B50, 1), (0x2B55, 0x2B55, 1),
   (0x1F004, 0x1F004, 1), (0x1F0CF, 0x1F0CF, 1), (0x1F18E, 0x1F18E, 1), (0x1F191, 0x1F19A, 1),
   (0x1F1E6, 0x1F1FF, 1), (0x1F201, 0x1F201, 1), (0x1F21A, 0x1F21A, 1), (0x1F22F, 0x1F22F, 1),
   (0x1F232, 0x1F236, 1), (0x1F238, 0x1F23A, 1), (0x1F250, 0x1F251, 1), (0x1F300, 0x1F320, 1),
   (0x1F32D, 0x1F335, 1), (0x1F337, 0x1F37C, 1), (0x1F37E, 0x1F393, 1), (0x1F3A0, 0x1F3CA, 1),
   (0x1F3CF, 0x1F3D3, 1), (0x1F3E0, 0x1F3F0, 1), (0x1F3F4, 0x1F3F4, 1), (0x1F3F8, 0x1F43E, 1),
   (0x1F440, 0x1F440, 1), (0x1F442, 0x1F4FC, 1), (0x1F4FF, 0x1F53D, 1), (0x1F54B, 0x1F54E, 1),
   (0x1F550, 0x1F567, 1), (0x1F57A, 0x1F57A, 1), (0x1F595, 0x1F596, 1), (0x1F5A4, 0x1F5A4, 1),
   (0x1F5FB, 0x1F64F, 1), (0x1F680, 0x1F6C5, 1), (0x1F6CC, 0x1F6CC, 1), (0x1F6D0, 0x1F6D2, 1),
   (0x1F6D5, 0x1F6D7, 1), (0x1F6DC, 0x1F6DF, 1), (0x1F6EB, 0x1F6EC, 1), (0x1F6F4, 0x1F6FC, 1),
   (0x1F7E0, 0x1F7EB, 1), (0x1F7F0, 0x1F7F0, 1), (0x1F90C, 0x1F93A, 1), (0x1F93C, 0x1F945, 1),
   (0x1F947, 0x1F9FF, 1), (0x1FA70, 0x1FA7C, 1), (0x1FA80, 0x1FA89, 1), (0x1FA8F, 0x1FAC6, 1),
   (0x1FACE, 0x1FADC, 1), (0x1FADF, 0x1FAE9, 1), (0x1FAF0, 0x1FAF8, 1)]

def extendedPictographic : List Span :=
  [(0xA9, 0xA9, 1), (0xAE, 0xAE, 1), (0x203C, 0x203C, 1), (0x2049, 0x2049, 1), (0x2122, 0x2122, 1),
   (0x2139, 0x2139, 1), (0x2194, 0x2199, 1), (0x21A9, 0x21AA, 1), (0x231A, 0x231B, 1),
   (0x2328, 0x2328, 1), (0x2388, 0x2388, 1), (0x23CF, 0x23CF, 1), (0x23E9, 0x23F3, 1),
   (0x23F8, 0x23FA, 1), (0x24C2, 0x24C2, 1), (0x25AA, 0x25AB, 1), (0x25B6, 0x25B6, 1),
   (0x25C0, 0x25C0, 1), (0x25FB, 0x25FE, 1), (0x2600, 0x2605, 1), (0x2607, 0x2612, 1),
   (0x2614, 0x2685, 1), (0x2690, 0x2705, 1), (0x2708, 0x2712, 1), (0x2714, 0x2716, 2),
   (0x271D, 0x271D, 1), (0x2721, 0x2721, 1), (0x2728, 0x2728, 1), (0x2733, 0x2734, 1),
   (0x2744, 0x2744, 1), (0x2747, 0x2747, 1), (0x274C, 0x274E, 2), (0x2753, 0x2755, 1),
   (0x2757, 0x2757, 1), (0x2763, 0x2767, 1), (0x2795, 0x2797, 1), (0x27A1, 0x27A1, 1),
   (0x27B0, 0x27B0, 1), (0x27BF, 0x27BF, 1), (0x2934, 0x2935, 1), (0x2B05, 0x2B07, 1),
   (0x2B1B, 0x2B1C, 1), (0x2B50, 0x2B50, 1), (0x2B55, 0x2B55, 1), (0x3030, 0x3030, 1),
   (0x303D, 0x303D, 1), (0x3297, 0x3299, 2), (0x1F000, 0x1F0FF, 1), (0x1F10D, 0x1F10F, 1),
   (0x1F12F, 0x1F12F, 1), (0x1F16C, 0x1F171, 1), (0x1F17E, 0x1F17F, 1), (0x1F18E, 0x1F18E, 1),
   (0x1F191, 0x1F19A, 1), (0x1F1AD, 0x1F1E5, 1), (0x1F201, 0x1F20F, 1), (0x1F21A, 0x1F21A, 1),
   (0x1F22F, 0x1F22F, 1), (0x1F232, 0x1F23A, 1), (0x1F23C, 0x1F23F, 1), (0x1F249, 0x1F3FA, 1),
   (0x1F400, 0x1F53D, 1), (0x1F546, 0x1F64F, 1), (0x1F680, 0x1F6FF, 1), (0x1F774, 0x1F77F, 1),
   (0x1F7D5, 0x1F7FF, 1), (0x1F80C, 0x1F80F, 1), (0x1F848, 0x1F84F, 1), (0x1F85A, 0x1F85F, 1),
   (0x1F888, 0x1F88F, 1), (0x1F8AE, 0x1F8AF, 1), (0x1F8BC, 0x1F8BF, 1), (0x1F8C2, 0x1F8FF, 1),
   (0x1F90C, 0x1F93A, 1), (0x1F93C, 0x1F945, 1), (0x1F947, 0x1FAFF, 1), (0x1FC00, 0x1FFFD, 1)]

def extender : List Span :=
  [(0xB7, 0xB7, 1), (0x2D0, 0x2D1, 1), (0x640, 0x640, 1), (0x7FA, 0x7FA, 1), (0xA71, 0xA71, 1),
   (0xAFB, 0xAFB, 1), (0xB55, 0xB55, 1), (0xE46, 0xE46, 1), (0xEC6, 0xEC6, 1), (0x180A, 0x180A, 1),
   (0x1843, 0x1843, 1), (0x1AA7, 0x1AA7, 1), (0x1C36, 0x1C36, 1), (0x1C7B, 0x1C7B, 1),
   (0x3005, 0x3005, 1), (0x3031, 0x3035, 1), (0x309D, 0x309E, 1), (0x30FC, 0x30FE, 1),
   (0xA015, 0xA015, 1), (0xA60C, 0xA60C, 1), (0xA9CF, 0xA9CF, 1), (0xA9E6, 0xA9E6, 1),
   (0xAA70, 0xAA70, 1), (0xAADD, 0xAADD, 1), (0xAAF3, 0xAAF4, 1), (0xFF70, 0xFF70, 1),
   (0x10781, 0x10782, 1), (0x10D4E, 0x10D4E, 1), (0x10D6A, 0x10D6A, 1), (0x10D6F, 0x10D6F, 1),
   (0x11237, 0x11237, 1), (0x1135D, 0x1135D, 1), (0x113D2, 0x113D3, 1), (0x115C6, 0x115C8, 1),
   (0x11A98, 0x11A98, 1), (0x16B42, 0x16B43, 1), (0x16FE0, 0x16FE1, 1), (0x16FE3, 0x16FE3, 1),
   (0x1E13C, 0x1E13D, 1), (0x1E5EF, 0x1E5EF, 1), (0x1E944, 0x1E946, 1)]

def graphemeLink : List Span :=
  [(0x94D, 0x94D, 1), (0x9CD, 0x9CD, 1), (0xA4D, 0xA4D, 1), (0xACD, 0xACD, 1), (0xB4D, 0xB4D, 1),
   (0xBCD, 0xBCD, 1), (0xC4D, 0xC4D, 1), (0xCCD, 0xCCD, 1), (0xD3B, 0xD3C, 1), (0xD4D, 0xD4D, 1),
   (0xDCA, 0xDCA, 1), (0xE3A, 0xE3A, 1), (0xEBA, 0xEBA, 1), (0xF84, 0xF84, 1), (0x1039, 0x103A, 1),
   (0x1714, 0x1715, 1), (0x1734, 0x1734, 1), (0x17D2, 0x17D2, 1), (0x1A60, 0x1A60, 1),
   (0x1B44, 0x1B44, 1), (0x1BAA, 0x1BAB, 1), (0x1BF2, 0x1BF3, 1), (0x2D7F, 0x2D7F, 1),
   (0xA806, 0xA806, 1), (0xA82C, 0xA82C, 1), (0xA8C4, 0xA8C4, 1), (0xA953, 0xA953, 1),
   (0xA9C0, 0xA9C0, 1), (0xAAF6, 0xAAF6, 1), (0xABED, 0xABED, 1), (0x10A3F, 0x10A3F, 1),
   (0x11046, 0x11046, 1), (0x11070, 0x11070, 1), (0x1107F, 0x1107F, 1), (0x110B9, 0x110B9, 1),
   (0x11133, 0x11134, 1), (0x111C0, 0x111C0, 1), (0x11235, 0x11235, 1), (0x112EA, 0x112EA, 1),
   (0x1134D, 0x1134D, 1), (0x113CE, 0x113D0, 1), (0x11442, 0x11442, 1), (0x114C2, 0x114C2, 1),
   (0x115BF, 0x115BF, 1), (0x1163F, 0x1163F, 1), (0x116B6, 0x116B6, 1), (0x1172B, 0x1172B, 1),
   (0x11839, 0x11839, 1), (0x1193D, 0x1193E, 1), (0x119E0, 0x119E0, 1), (0x11A34, 0x11A34, 1),
   (0x11A47, 0x11A47, 1), (0x11A99, 0x11A99, 1), (0x11C3F, 0x11C3F, 1), (0x11D44, 0x11D45, 1),
   (0x11D97, 0x11D97, 1), (0x11F41, 0x11F42, 1), (0x1612F, 0x1612F, 1)]

def hexDigit : List Span :=
  [(0x30, 0x39, 1), (0x41, 0x46, 1), (0x61, 0x66, 1), (0xFF10, 0xFF19, 1), (0xFF21, 0xFF26, 1),
   (0xFF41, 0xFF46, 1)]

def hyphen : List Span :=
  [(0x2D, 0x2D, 1), (0xAD, 0xAD, 1), (0x58A, 0x58A, 1), (0x1806, 0x1806, 1), (0x2010, 0x2011, 1),
   (0x2E17, 0x2E17, 1), (0x30FB, 0x30FB, 1), (0xFE63, 0xFE63, 1), (0xFF0D, 0xFF0D, 1),
   (0xFF65, 0xFF65, 1)]

def idsBinaryOperator : List Span :=
  [(0x2FF0, 0x2FF1, 1), (0x2FF4, 0x2FFD, 1), (0x31EF, 0x31EF, 1)]

def idsTrinaryOperator : List Span :=
  [(0x2FF2, 0x2FF3, 1)]

def idsUnaryOperator : List Span :=
  [(0x2FFE, 0x2FFF, 1)]

def idCompatMathStart : List Span :=
  [(0x2202, 0x2202, 1), (0x2207, 0x2207, 1), (0x221E, 0x221E, 1), (0x1D6C1, 0x1D6C1, 1),
   (0x1D6DB, 0x1D6DB, 1), (0x1D6FB, 0x1D6FB, 1), (0x1D715, 0x1D715, 1), (0x1D735, 0x1D735, 1),
   (0x1D74F, 0x1D74F, 1), (0x1D76F, 0x1D76F, 1), (0x1D789, 0x1D789, 1), (0x1D7A9, 0x1D7A9, 1),
   (0x1D7C3, 0x1D7C3, 1)]

def ideographic : List Span :=
  [(0x3006, 0x3007, 1), (0x3021, 0x3029, 1), (0x3038, 0x303A, 1), (0x3400, 0x4DBF, 1),
   (0x4E00, 0x9FFF, 1), (0xF900, 0xFA6D, 1), (0xFA70, 0xFAD9, 1), (0x16FE4, 0x16FE4, 1),
   (0x17000, 0x187F7, 1), (0x18800, 0x18CD5, 1), (0x18CFF, 0x18D08, 1), (0x1B170, 0x1B2FB, 1),
   (0x20000, 0x2A6DF, 1), (0x2A700, 0x2B739, 1), (0x2B740, 0x2B81D, 1), (0x2B820, 0x2CEA1, 1),
   (0x2CEB0, 0x2EBE0, 1), (0x2EBF0, 0x2EE5D, 1), (0x2F800, 0x2FA1D, 1), (0x30000, 0x3134A, 1),
   (0x31350, 0x323AF, 1)]

def joinControl : List Span :=
  [(0x200C, 0x200D, 1)]

def logicalOrderException : List Span :=
  [(0xE40, 0xE44, 1), (0xEC0, 0xEC4, 1), (0x19B5, 0x19B7, 1), (0x19BA, 0x19BA, 1),
   (0xAAB5, 0xAAB6, 1), (0xAAB9, 0xAAB9, 1), (0xAABB, 0xAABC, 1)]

def modifierCombiningMark : List Span :=
  [(0x654, 0x655, 1), (0x658, 0x658, 1), (0x6DC, 0x6DC, 1), (0x6E3, 0x6E3, 1), (0x6E7, 0x6E8, 1),
   (0x8CA, 0x8CB, 1), (0x8CD, 0x8CF, 1), (0x8D3, 0x8D3, 1), (0x8F3, 0x8F3, 1)]

def noncharacter : List Span :=
  [(0xFDD0, 0xFDEF, 1), (0xFFFE, 0xFFFF, 1), (0x1FFFE, 0x1FFFF, 1), (0x2FFFE, 0x2FFFF, 1),
   (0x3FFFE, 0x3FFFF, 1), (0x4FFFE, 0x4FFFF, 1), (0x5FFFE, 0x5FFFF, 1), (0x6FFFE, 0x6FFFF, 1),
   (0x7FFFE, 0x7FFFF, 1), (0x8FFFE, 0x8FFFF, 1), (0x9FFFE, 0x9FFFF, 1), (0xAFFFE, 0xAFFFF, 1),
   (0xBFFFE, 0xBFFFF, 1), (0xCFFFE, 0xCFFFF, 1), (0xDFFFE, 0xDFFFF, 1), (0xEFFFE, 0xEFFFF, 1),
   (0xFFFFE, 0xFFFFF, 1), (0x10FFFE, 0x10FFFF, 1)]

def patternSyntax : List Span :=
  [(0x21, 0x2F, 1), (0x3A, 0x40, 1), (0x5B, 0x5E, 1), (0x60, 0x60, 1), (0x7B, 0x7E, 1),
   (0xA1, 0xA7, 1), (0xA9, 0xA9, 1), (0xAB, 0xAC, 1), (0xAE, 0xAE, 1), (0xB0, 0xB1, 1),
   (0xB6, 0xB6, 1), (0xBB, 0xBB, 1), (0xBF, 0xBF, 1), (0xD7, 0xD7, 1), (0xF7, 0xF7, 1),
   (0x2010, 0x2027, 1), (0x2030, 0x203E, 1), (0x2041, 0x2053, 1), (0x2055, 0x205E, 1),
   (0x2190, 0x245F, 1), (0x2500, 0x2775, 1), (0x2794, 0x2BFF, 1), (0x2E00, 0x2E7F, 1),
   (0x3001, 0x3003, 1), (0x3008, 0x3020, 1), (0x3030, 0x3030, 1), (0xFD3E, 0xFD3F, 1),
   (0xFE45, 0xFE46, 1)]

def patternWhiteSpace : List Span :=
  [(0x9, 0xD, 1), (0x20, 0x20, 1), (0x85, 0x85, 1), (0x200E, 0x200F, 1), (0x2028, 0x2029, 1)]

def prependedConcatenationMark : List Span :=
  [(0x600, 0x605, 1), (0x6DD, 0x6DD, 1), (0x70F, 0x70F, 1), (0x890, 0x891, 1), (0x8E2, 0x8E2, 1),
   (0x110BD, 0x110BD, 1), (0x110CD, 0x110CD, 1)]

def quotationMark : List Span :=
  [(0x22, 0x22, 1), (0x27, 0x27, 1), (0xAB, 0xAB, 1), (0xBB, 0xBB, 1), (0x2018, 0x201F, 1),
   (0x2039, 0x203A, 1), (0x2E42, 0x2E42, 1), (0x300C, 0x300F, 1), (0x301D, 0x301F, 1),
   (0xFE41, 0xFE44, 1), (0xFF02, 0xFF02, 1), (0xFF07, 0xFF07, 1), (0xFF62, 0xFF63, 1)]

def radical : List Span :=
  [(0x2E80, 0x2E99, 1), (0x2E9B, 0x2EF3, 1), (0x2F00, 0x2FD5, 1)]

def regionalIndicator : List Span :=
  [(0x1F1E6, 0x1F1FF, 1)]

def sentenceTerminal : List Span :=
  [(0x21, 0x21, 1), (0x2E, 0x2E, 1), (0x3F, 0x3F, 1), (0x589, 0x589, 1), (0x61D, 0x61F, 1),
   (0x6D4, 0x6D4, 1), (0x700, 0x702, 1), (0x7F9, 0x7F9, 1), (0x837, 0x839, 2), (0x83D, 0x83E, 1),
   (0x964, 0x965, 1), (0x104A, 0x104B, 1), (0x1362, 0x1362, 1), (0x1367, 0x1368, 1),
   (0x166E, 0x166E, 1), (0x1735, 0x1736, 1), (0x17D4, 0x17D5, 1), (0x1803, 0x1803, 1),
   (0x1809, 0x1809, 1), (0x1944, 0x1945, 1), (0x1AA8, 0x1AAB, 1), (0x1B4E, 0x1B4F, 1),
   (0x1B5A, 0x1B5B, 1), (0x1B5E, 0x1B5F, 1), (0x1B7D, 0x1B7F, 1), (0x1C3B, 0x1C3C, 1),
   (0x1C7E, 0x1C7F, 1), (0x2024, 0x2024, 1), (0x203C, 0x203D, 1), (0x2047, 0x2049, 1),
   (0x2CF9, 0x2CFB, 1), (0x2E2E, 0x2E2E, 1), (0x2E3C, 0x2E3C, 1), (0x2E53, 0x2E54, 1),
   (0x3002, 0x3002, 1), (0xA4FF, 0xA4FF, 1), (0xA60E, 0xA60F, 1), (0xA6F3, 0xA6F3, 1),
   (0xA6F7, 0xA6F7, 1), (0xA876, 0xA877, 1), (0xA8CE, 0xA8CF, 1), (0xA92F, 0xA92F, 1),
   (0xA9C8, 0xA9C9, 1), (0xAA5D, 0xAA5F, 1), (0xAAF0, 0xAAF1, 1), (0xABEB, 0xABEB, 1),
   (0xFE12, 0xFE12, 1), (0xFE15, 0xFE16, 1), (0xFE52, 0xFE52, 1), (0xFE56, 0xFE57, 1),
   (0xFF01, 0xFF01, 1), (0xFF0E, 0xFF0E, 1), (0xFF1F, 0xFF1F, 1), (0xFF61, 0xFF61, 1),
   (0x10A56, 0x10A57, 1), (0x10F55, 0x10F59, 1), (0x10F86, 0x10F89, 1), (0x11047, 0x11048, 1),
   (0x110BE, 0x110C1, 1), (0x11141, 0x11143, 1), (0x111C5, 0x111C6, 1), (0x111CD, 0x111CD, 1),
   (0x111DE, 0x111DF, 1), (0x11238, 0x11239, 1), (0x1123B, 0x1123C, 1), (0x112A9, 0x112A9, 1),
   (0x113D4, 0x113D5, 1), (0x1144B, 0x1144C, 1), (0x115C2, 0x115C3, 1), (0x115C9, 0x115D7, 1),
   (0x11641, 0x11642, 1), (0x1173C, 0x1173E, 1), (0x11944, 0x11946, 2), (0x11A42, 0x11A43, 1),
   (0x11A9B, 0x11A9C, 1), (0x11C41, 0x11C42, 1), (0x11EF7, 0x11EF8, 1), (0x11F43, 0x11F44, 1),
   (0x16A6E, 0x16A6F, 1), (0x16AF5, 0x16AF5, 1), (0x16B37, 0x16B38, 1), (0x16B44, 0x16B44, 1),
   (0x16D6E, 0x16D6F, 1), (0x16E98, 0x16E98, 1), (0x1BC9F, 0x1BC9F, 1), (0x1DA88, 0x1DA88, 1)]

def softDotted : List Span :=
  [(0x69, 0x6A, 1), (0x12F, 0x12F, 1), (0x249, 0x249, 1), (0x268, 0x268, 1), (0x29D, 0x29D, 1),
   (0x2B2, 0x2B2, 1), (0x3F3, 0x3F3, 1), (0x456, 0x458, 2), (0x1D62, 0x1D62, 1),
   (0x1D96, 0x1D96, 1), (0x1DA4, 0x1DA4, 1), (0x1DA8, 0x1DA8, 1), (0x1E2D, 0x1E2D, 1),
   (0x1ECB, 0x1ECB, 1), (0x2071, 0x2071, 1), (0x2148, 0x2149, 1), (0x2C7C, 0x2C7C, 1),
   (0x1D422, 0x1D423, 1), (0x1D456, 0x1D457, 1), (0x1D48A, 0x1D48B, 1), (0x1D4BE, 0x1D4BF, 1),
   (0x1D4F2, 0x1D4F3, 1), (0x1D526, 0x1D527, 1), (0x1D55A, 0x1D55B, 1), (0x1D58E, 0x1D58F, 1),
   (0x1D5C2, 0x1D5C3, 1), (0x1D5F6, 0x1D5F7, 1), (0x1D62A, 0x1D62B, 1), (0x1D65E, 0x1D65F, 1),
   (0x1D692, 0x1D693, 1), (0x1DF1A, 0x1DF1A, 1), (0x1E04C, 0x1E04D, 1), (0x1E068, 0x1E068, 1)]

def terminalPunctuation : List Span :=
  [(0x21, 0x21, 1), (0x2C, 0x2E, 2), (0x3A, 0x3B, 1), (0x3F, 0x3F, 1), (0x37E, 0x37E, 1),
   (0x387, 0x387, 1), (0x589, 0x589, 1), (0x5C3, 0x5C3, 1), (0x60C, 0x60C, 1), (0x61B, 0x61B, 1),
   (0x61D, 0x61F, 1), (0x6D4, 0x6D4, 1), (0x700, 0x70A, 1), (0x70C, 0x70C, 1), (0x7F8, 0x7F9, 1),
   (0x830, 0x835, 1), (0x837, 0x83E, 1), (0x85E, 0x85E, 1), (0x964, 0x965, 1), (0xE5A, 0xE5B, 1),
   (0xF08, 0xF08, 1), (0xF0D, 0xF12, 1), (0x104A, 0x104B, 1), (0x1361, 0x1368, 1),
   (0x166E, 0x166E, 1), (0x16EB, 0x16ED, 1), (0x1735, 0x1736, 1), (0x17D4, 0x17D6, 1),
   (0x17DA, 0x17DA, 1), (0x1802, 0x1805, 1), (0x1808, 0x1809, 1), (0x1944, 0x1945, 1),
   (0x1AA8, 0x1AAB, 1), (0x1B4E, 0x1B4F, 1), (0x1B5A, 0x1B5B, 1), (0x1B5D, 0x1B5F, 1),
   (0x1B7D, 0x1B7F, 1), (0x1C3B, 0x1C3F, 1), (0x1C7E, 0x1C7F, 1), (0x2024, 0x2024, 1),
   (0x203C, 0x203D, 1), (0x2047, 0x2049, 1), (0x2CF9, 0x2CFB, 1), (0x2E2E, 0x2E2E, 1),
   (0x2E3C, 0x2E3C, 1), (0x2E41, 0x2E41, 1), (0x2E4C, 0x2E4C, 1), (0x2E4E, 0x2E4F, 1),
   (0x2E53, 0x2E54, 1), (0x3001, 0x3002, 1), (0xA4FE, 0xA4FF, 1), (0xA60D, 0xA60F, 1),
   (0xA6F3, 0xA6F7, 1), (0xA876, 0xA877, 1), (0xA8CE, 0xA8CF, 1), (0xA92F, 0xA92F, 1),
   (0xA9C7, 0xA9C9, 1), (0xAA5D, 0xAA5F, 1), (0xAADF, 0xAADF, 1), (0xAAF0, 0xAAF1, 1),
   (0xABEB, 0xABEB, 1), (0xFE12, 0xFE12, 1), (0xFE15, 0xFE16, 1), (0xFE50, 0xFE52, 1),
   (0xFE54, 0xFE57, 1), (0xFF01, 0xFF01, 1), (0xFF0C, 0xFF0E, 2), (0xFF1A, 0xFF1B, 1),
   (0xFF1F, 0xFF1F, 1), (0xFF61, 0xFF61, 1), (0xFF64, 0xFF64, 1), (0x1039F, 0x1039F, 1),
   (0x103D0, 0x103D0, 1), (0x10857, 0x10857, 1), (0x1091F, 0x1091F, 1), (0x10A56, 0x10A57, 1),
   (0x10AF0, 0x10AF5, 1), (0x10B3A, 0x10B3F, 1), (0x10B99, 0x10B9C, 1), (0x10F55, 0x10F59, 1),
   (0x10F86, 0x10F89, 1), (0x11047, 0x1104D, 1), (0x110BE, 0x110C1, 1), (0x11141, 0x11143, 1),
   (0x111C5, 0x111C6, 1), (0x111CD, 0x111CD, 1), (0x111DE, 0x111DF, 1), (0x11238, 0x1123C, 1),
   (0x112A9, 0x112A9, 1), (0x113D4, 0x113D5, 1), (0x1144B, 0x1144D, 1), (0x1145A, 0x1145B, 1),
   (0x115C2, 0x115C5, 1), (0x115C9, 0x115D7, 1), (0x11641, 0x11642, 1), (0x1173C, 0x1173E, 1),
   (0x11944, 0x11946, 2), (0x11A42, 0x11A43, 1), (0x11A9B, 0x11A9C, 1), (0x11AA1, 0x11AA2, 1),
   (0x11C41, 0x11C43, 1), (0x11C71, 0x11C71, 1), (0x11EF7, 0x11EF8, 1), (0x11F43, 0x11F44, 1),
   (0x12470, 0x12474, 1), (0x16A6E, 0x16A6F, 1), (0x16AF5, 0x16AF5, 1), (0x16B37, 0x16B39, 1),
   (0x16B44, 0x16B44, 1), (0x16D6E, 0x16D6F, 1), (0x16E97, 0x16E98, 1), (0x1BC9F, 0x1BC9F, 1),
   (0x1DA87, 0x1DA8A, 1)]

def unifiedIdeograph : List Span :=
  [(0x3400, 0x4DBF, 1), (0x4E00, 0x9FFF, 1), (0xFA0E, 0xFA0F, 1), (0xFA11, 0xFA11, 1),
   (0xFA13, 0xFA14, 1), (0xFA1F, 0xFA21, 2), (0xFA23, 0xFA24, 1), (0xFA27, 0xFA29, 1),
   (0x20000, 0x2A6DF, 1), (0x2A700, 0x2B739, 1), (0x2B740, 0x2B81D, 1), (0x2B820, 0x2CEA1, 1),
   (0x2CEB0, 0x2EBE0, 1), (0x2EBF0, 0x2EE5D, 1), (0x30000, 0x3134A, 1), (0x31350, 0x323AF, 1)]

def variationSelector : List Span :=
  [(0x180B, 0x180D, 1), (0x180F, 0x180F, 1), (0xFE00, 0xFE0F, 1), (0xE0100, 0xE01EF, 1)]

def whiteSpace : List Span :=
  [(0x9, 0xD, 1), (0x20, 0x20, 1), (0x85, 0x85, 1), (0xA0, 0xA0, 1), (0x1680, 0x1680, 1),
   (0x2000, 0x200A, 1), (0x2028, 0x2029, 1), (0x202F, 0x202F, 1), (0x205F, 0x205F, 1),
   (0x3000, 0x3000, 1)]

open Category (letters marks)

def alphabetic : CharSet :=
  .ofSpans ((.letterNumber :: letters).flatMap Category.spans ++ otherAlphabetic)

def lowercase : CharSet := .ofSpans (Category.lowercaseLetter.spans ++ otherLowercase)

def uppercase : CharSet := .ofSpans (Category.uppercaseLetter.spans ++ otherUppercase)

def cased : CharSet := .unions [lowercase, uppercase, Category.titlecaseLetter.set]

/-- The property `Case_Ignorable`: marks, modifiers and format characters, and punctuation that may
stand inside of words. -/
def caseIgnorable : CharSet :=
  (Category.sets [.nonspacingMark, .enclosingMark, .format, .modifierLetter, .modifierSymbol]).union
    (.ofSpans
      [(0x27, 0x27, 1), (0x2E, 0x2E, 1), (0x3A, 0x3A, 1), (0xB7, 0xB7, 1), (0x387, 0x387, 1),
       (0x55F, 0x55F, 1), (0x5F4, 0x5F4, 1), (0x2018, 0x2019, 1), (0x2024, 0x2024, 1),
       (0x2027, 0x2027, 1), (0xFE13, 0xFE13, 1), (0xFE52, 0xFE52, 1), (0xFE55, 0xFE55, 1),
       (0xFF07, 0xFF07, 1), (0xFF0E, 0xFF0E, 1), (0xFF1A, 0xFF1A, 1)])

def changesWhenCasemapped : CharSet :=
  .ofSpans (changesWhenLowercased ++ changesWhenTitlecased ++ changesWhenUppercased)

def math : CharSet := .ofSpans (Category.mathSymbol.spans ++ otherMath)

/-- The property `Default_Ignorable_Code_Point`. Annotation marks and the format characters of
hieroglyphs are not ignorable. -/
def defaultIgnorable : CharSet :=
  (CharSet.ofSpans (Category.format.spans ++ variationSelector ++ otherDefaultIgnorable)).minus
    (.ofSpans ([(0xFFF9, 0xFFFB, 1), (0x13430, 0x13440, 1)] ++ prependedConcatenationMark))

def graphemeExtend : CharSet :=
  .ofSpans (Category.nonspacingMark.spans ++ Category.enclosingMark.spans ++ otherGraphemeExtend)

def graphemeBase : CharSet :=
  (Category.assigned.minus (Category.sets
    [.control, .format, .privateUse, .lineSeparator, .paragraphSeparator])).minus graphemeExtend

def idCompatMathContinue : CharSet :=
  .ofSpans (idCompatMathStart ++
    [(0xB2, 0xB3, 1), (0xB9, 0xB9, 1), (0x2070, 0x2070, 1), (0x2074, 0x207E, 1),
     (0x2080, 0x208E, 1)])

def patternCodes : CharSet := .ofSpans (patternSyntax ++ patternWhiteSpace)

def idStart : CharSet :=
  (CharSet.ofSpans ((.letterNumber :: letters).flatMap Category.spans ++ otherIdStart)).minus
    patternCodes

def idContinue : CharSet :=
  (idStart.union (.ofSpans (Category.nonspacingMark.spans ++ Category.spacingMark.spans ++
    Category.decimalNumber.spans ++ Category.connectorPunctuation.spans ++
      otherIdContinue))).minus patternCodes

/-- Code points whose compatibility forms do not continue identifiers. -/
def openForms : List Span :=
  [(0x37A, 0x37A, 1), (0x309B, 0x309C, 1), (0xFC5E, 0xFC63, 1), (0xFDFA, 0xFDFB, 1),
   (0xFE70, 0xFE7E, 2)]

/-- Code points whose compatibility forms continue identifiers but do not start them. -/
def continuingForms : List Span :=
  [(0xE33, 0xE33, 1), (0xEB3, 0xEB3, 1), (0xFF9E, 0xFF9F, 1)]

def xidStart : CharSet := idStart.minus (.ofSpans (openForms ++ continuingForms))

def xidContinue : CharSet := idContinue.minus (.ofSpans openForms)

/-- The characters of words: alphabetic ones, marks, decimal digits, connectors and joiners. -/
def word : CharSet :=
  .unions [alphabetic, Category.sets marks, Category.decimalNumber.set,
    Category.connectorPunctuation.set, .ofSpans joinControl]

/-- The properties by their names, in lower case and without separators. -/
def named : List (List String × CharSet) :=
  [(["ahex", "asciihexdigit"], .ofSpans [(0x30, 0x39, 1), (0x41, 0x46, 1), (0x61, 0x66, 1)]),
   (["alpha", "alphabetic"], alphabetic),
   (["bidic", "bidicontrol"], .ofSpans bidiControl),
   (["bidim", "bidimirrored"], .ofSpans bidiMirrored),
   (["ci", "caseignorable"], caseIgnorable),
   (["cased"], cased),
   (["cwcf", "changeswhencasefolded"], .ofSpans changesWhenCasefolded),
   (["cwcm", "changeswhencasemapped"], changesWhenCasemapped),
   (["cwl", "changeswhenlowercased"], .ofSpans changesWhenLowercased),
   (["cwt", "changeswhentitlecased"], .ofSpans changesWhenTitlecased),
   (["cwu", "changeswhenuppercased"], .ofSpans changesWhenUppercased),
   (["dash"], .ofSpans dash),
   (["di", "defaultignorablecodepoint"], defaultIgnorable),
   (["dep", "deprecated"], .ofSpans deprecatedCodes),
   (["dia", "diacritic"], .ofSpans diacritic),
   (["emoji"], .ofSpans emoji),
   (["ecomp", "emojicomponent"], .ofSpans emojiComponent),
   (["emod", "emojimodifier"], .ofSpans emojiModifier),
   (["ebase", "emojimodifierbase"], .ofSpans emojiModifierBase),
   (["epres", "emojipresentation"], .ofSpans emojiPresentation),
   (["extpict", "extendedpictographic"], .ofSpans extendedPictographic),
   (["ext", "extender"], .ofSpans extender),
   (["grbase", "graphemebase"], graphemeBase),
   (["grext", "graphemeextend"], graphemeExtend),
   (["grlink", "graphemelink"], .ofSpans graphemeLink),
   (["hex", "hexdigit"], .ofSpans hexDigit),
   (["hyphen"], .ofSpans hyphen),
   (["idsb", "idsbinaryoperator"], .ofSpans idsBinaryOperator),
   (["idst", "idstrinaryoperator"], .ofSpans idsTrinaryOperator),
   (["idsu", "idsunaryoperator"], .ofSpans idsUnaryOperator),
   (["idcompatmathcontinue"], idCompatMathContinue),
   (["idcompatmathstart"], .ofSpans idCompatMathStart),
   (["idc", "idcontinue"], idContinue),
   (["ids", "idstart"], idStart),
   (["ideo", "ideographic"], .ofSpans ideographic),
   (["joinc", "joincontrol"], .ofSpans joinControl),
   (["loe", "logicalorderexception"], .ofSpans logicalOrderException),
   (["lower", "lowercase"], lowercase),
   (["math"], math),
   (["mcm", "modifiercombiningmark"], .ofSpans modifierCombiningMark),
   (["nchar", "noncharactercodepoint"], .ofSpans noncharacter),
   (["oalpha", "otheralphabetic"], .ofSpans otherAlphabetic),
   (["odi", "otherdefaultignorablecodepoint"], .ofSpans otherDefaultIgnorable),
   (["ogrext", "othergraphemeextend"], .ofSpans otherGraphemeExtend),
   (["oidc", "otheridcontinue"], .ofSpans otherIdContinue),
   (["oids", "otheridstart"], .ofSpans otherIdStart),
   (["olower", "otherlowercase"], .ofSpans otherLowercase),
   (["omath", "othermath"], .ofSpans otherMath),
   (["oupper", "otheruppercase"], .ofSpans otherUppercase),
   (["patsyn", "patternsyntax"], .ofSpans patternSyntax),
   (["patws", "patternwhitespace"], .ofSpans patternWhiteSpace),
   (["pcm", "prependedconcatenationmark"], .ofSpans prependedConcatenationMark),
   (["qmark", "quotationmark"], .ofSpans quotationMark),
   (["radical"], .ofSpans radical),
   (["ri", "regionalindicator"], .ofSpans regionalIndicator),
   (["sterm", "sentenceterminal"], .ofSpans sentenceTerminal),
   (["sd", "softdotted"], .ofSpans softDotted),
   (["term", "terminalpunctuation"], .ofSpans terminalPunctuation),
   (["uideo", "unifiedideograph"], .ofSpans unifiedIdeograph),
   (["upper", "uppercase"], uppercase),
   (["vs", "variationselector"], .ofSpans variationSelector),
   (["wspace", "whitespace", "space"], .ofSpans whiteSpace),
   (["xidc", "xidcontinue"], xidContinue),
   (["xids", "xidstart"], xidStart)]

def named? (name : String) : Option CharSet :=
  (named.find? fun (names, _) => names.contains name).map (·.2)

end AnnotationIndex.Text.Property

namespace AnnotationIndex.Text

def isAlphabetic (c : Char) : Bool := Property.alphabetic.mem c

end AnnotationIndex.Text
