import BoundaryRules.CharClass

/-!
The word break classes of the bundled grammar: the property Word_Break of Unicode for the scripts
that it covers. Other characters are in no class.
-/
namespace BoundaryRules.Bundled

/-- The ranges of each class by their ends. -/
def wordBreakRanges : List (String × List (Nat × Nat)) := [
  ("Double_Quote",
    [(0x22, 0x22)]),
  ("Single_Quote",
    [(0x27, 0x27)]),
  ("Hebrew_Letter",
    [(0x5D0, 0x5EA), (0x5F0, 0x5F2), (0xFB1D, 0xFB1D), (0xFB1F, 0xFB28), (0xFB2A, 0xFB36),
     (0xFB38, 0xFB3C), (0xFB3E, 0xFB3E), (0xFB40, 0xFB41), (0xFB43, 0xFB44), (0xFB46, 0xFB4F)]),
  ("CR",
    [(0xD, 0xD)]),
  ("LF",
    [(0xA, 0xA)]),
  ("Newline",
    [(0xB, 0xC), (0x85, 0x85), (0x2028, 0x2028), (0x2029, 0x2029)]),
  ("Extend",
    [(0x300, 0x36F), (0x483, 0x487), (0x488, 0x489), (0x591, 0x5BD), (0x5BF, 0x5BF),
     (0x5C1, 0x5C2), (0x5C4, 0x5C5), (0x5C7, 0x5C7), (0x610, 0x61A), (0x64B, 0x65F),
     (0x670, 0x670), (0x6D6, 0x6DC), (0x900, 0x902), (0x903, 0x903), (0x93A, 0x93A),
     (0x93C, 0x93C), (0x93E, 0x940), (0x941, 0x948), (0x94D, 0x94D), (0x1AB0, 0x1ABD),
     (0x1DC0, 0x1DF5), (0x200C, 0x200C), (0x200D, 0x200D), (0x20D0, 0x20DC), (0x3099, 0x309A),
     (0xFE00, 0xFE0F), (0xFE20, 0xFE2F), (0xFF9E, 0xFF9F), (0xE0100, 0xE01EF)]),
  ("Regional_Indicator",
    [(0x1F1E6, 0x1F1FF)]),
  ("Format",
    [(0xAD, 0xAD), (0x600, 0x605), (0x61C, 0x61C), (0x6DD, 0x6DD), (0x70F, 0x70F),
     (0x180E, 0x180E), (0x200E, 0x200F), (0x202A, 0x202E), (0x2060, 0x2064), (0x2066, 0x206F),
     (0xFEFF, 0xFEFF), (0xFFF9, 0xFFFB), (0xE0001, 0xE0001), (0xE0020, 0xE007F)]),
  ("Katakana",
    [(0x3031, 0x3035), (0x309B, 0x309C), (0x30A0, 0x30A0), (0x30A1, 0x30FA), (0x30FC, 0x30FE),
     (0x30FF, 0x30FF), (0x31F0, 0x31FF), (0x32D0, 0x32FE), (0x3300, 0x3357), (0xFF66, 0xFF6F),
     (0xFF70, 0xFF70), (0xFF71, 0xFF9D)]),
  ("ALetter",
    [(0x41, 0x5A), (0x61, 0x7A), (0xAA, 0xAA), (0xB5, 0xB5), (0xBA, 0xBA), (0xC0, 0xD6),
     (0xD8, 0xF6), (0xF8, 0x1BA), (0x1BB, 0x1BB), (0x1BC, 0x1BF), (0x1C0, 0x1C3), (0x1C4, 0x293),
     (0x294, 0x294), (0x295, 0x2AF), (0x2B0, 0x2C1), (0x370, 0x373), (0x376, 0x377),
     (0x37B, 0x37D), (0x37F, 0x37F), (0x386, 0x386), (0x388, 0x38A), (0x38C, 0x38C),
     (0x38E, 0x3A1), (0x3A3, 0x3F5), (0x3F7, 0x481), (0x48A, 0x52F), (0x531, 0x556),
     (0x561, 0x587), (0x5F3, 0x5F3), (0x620, 0x63F), (0x641, 0x64A), (0x671, 0x6D3),
     (0x904, 0x939), (0x93D, 0x93D), (0x950, 0x950), (0x1E00, 0x1F15), (0x2C00, 0x2C2E),
     (0xA640, 0xA66D), (0xFB00, 0xFB06), (0xFF21, 0xFF3A), (0xFF41, 0xFF5A)]),
  ("MidLetter",
    [(0x3A, 0x3A), (0xB7, 0xB7), (0x387, 0x387), (0x5F4, 0x5F4), (0x2027, 0x2027),
     (0xFE13, 0xFE13), (0xFE55, 0xFE55), (0xFF1A, 0xFF1A)]),
  ("MidNum",
    [(0x2C, 0x2C), (0x3B, 0x3B), (0x37E, 0x37E), (0x589, 0x589), (0x60C, 0x60D), (0x66C, 0x66C),
     (0x7F8, 0x7F8), (0x2044, 0x2044), (0xFE10, 0xFE10), (0xFE14, 0xFE14), (0xFE50, 0xFE50),
     (0xFE54, 0xFE54), (0xFF0C, 0xFF0C), (0xFF1B, 0xFF1B)]),
  ("MidNumLet",
    [(0x2E, 0x2E), (0x2018, 0x2018), (0x2019, 0x2019), (0x2024, 0x2024), (0xFE52, 0xFE52),
     (0xFF07, 0xFF07), (0xFF0E, 0xFF0E)]),
  ("Numeric",
    [(0x30, 0x39), (0x660, 0x669), (0x66B, 0x66B), (0x6F0, 0x6F9), (0x966, 0x96F), (0xE50, 0xE59),
     (0x1D7CE, 0x1D7FF)]),
  ("ExtendNumLet",
    [(0x5F, 0x5F), (0x202F, 0x202F), (0x203F, 0x2040), (0x2054, 0x2054), (0xFE33, 0xFE34),
     (0xFE4D, 0xFE4F), (0xFF3F, 0xFF3F)])]

/-- The classes in the order of their identifiers. -/
def wordBreakClasses : List CharClass :=
  wordBreakRanges.map fun (name, ranges) =>
    CharClass.named name (ranges.map fun (first, last) => CodepointRange.ofEnds first last)

end BoundaryRules.Bundled
