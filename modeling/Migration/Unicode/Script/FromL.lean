import Migration.Unicode.CodeSet

/-!
# Scripts from L to Z

The characters of each script whose name begins with a letter from L on.
-/

namespace Migration.Unicode.Script

/-- The scripts from Lao to Zanabazar Square. -/
def laterScripts : List NamedSet :=
  [⟨["lao", "laoo"],
      .ofRanges
        [(0xE81, 0xE82), (0xE84, 0xE84), (0xE86, 0xE8A), (0xE8C, 0xEA3), (0xEA5, 0xEA5),
          (0xEA7, 0xEBD), (0xEC0, 0xEC4), (0xEC6, 0xEC6), (0xEC8, 0xECE), (0xED0, 0xED9),
          (0xEDC, 0xEDF)]⟩,
    ⟨["latin", "latn"],
      .ofRanges
        [(0x41, 0x5A), (0x61, 0x7A), (0xAA, 0xAA), (0xBA, 0xBA), (0xC0, 0xD6), (0xD8, 0xF6),
          (0xF8, 0x2B8), (0x2E0, 0x2E4), (0x1D00, 0x1D25), (0x1D2C, 0x1D5C), (0x1D62, 0x1D65),
          (0x1D6B, 0x1D77), (0x1D79, 0x1DBE), (0x1E00, 0x1EFF), (0x2071, 0x2071), (0x207F, 0x207F),
          (0x2090, 0x209C), (0x212A, 0x212B), (0x2132, 0x2132), (0x214E, 0x214E), (0x2160, 0x2188),
          (0x2C60, 0x2C7F), (0xA722, 0xA787), (0xA78B, 0xA7CD), (0xA7D0, 0xA7D1), (0xA7D3, 0xA7D3),
          (0xA7D5, 0xA7DC), (0xA7F2, 0xA7FF), (0xAB30, 0xAB5A), (0xAB5C, 0xAB64), (0xAB66, 0xAB69),
          (0xFB00, 0xFB06), (0xFF21, 0xFF3A), (0xFF41, 0xFF5A), (0x10780, 0x10785),
          (0x10787, 0x107B0), (0x107B2, 0x107BA), (0x1DF00, 0x1DF1E), (0x1DF25, 0x1DF2A)]⟩,
    ⟨["lepcha", "lepc"], .ofRanges [(0x1C00, 0x1C37), (0x1C3B, 0x1C49), (0x1C4D, 0x1C4F)]⟩,
    ⟨["limbu", "limb"],
      .ofRanges
        [(0x1900, 0x191E), (0x1920, 0x192B), (0x1930, 0x193B), (0x1940, 0x1940), (0x1944, 0x194F)]⟩,
    ⟨["lineara", "lina"], .ofRanges [(0x10600, 0x10736), (0x10740, 0x10755), (0x10760, 0x10767)]⟩,
    ⟨["linearb", "linb"],
      .ofRanges
        [(0x10000, 0x1000B), (0x1000D, 0x10026), (0x10028, 0x1003A), (0x1003C, 0x1003D),
          (0x1003F, 0x1004D), (0x10050, 0x1005D), (0x10080, 0x100FA)]⟩,
    ⟨["lisu"], .ofRanges [(0xA4D0, 0xA4FF), (0x11FB0, 0x11FB0)]⟩,
    ⟨["lycian", "lyci"], .ofRanges [(0x10280, 0x1029C)]⟩,
    ⟨["lydian", "lydi"], .ofRanges [(0x10920, 0x10939), (0x1093F, 0x1093F)]⟩,
    ⟨["mahajani", "mahj"], .ofRanges [(0x11150, 0x11176)]⟩,
    ⟨["makasar", "maka"], .ofRanges [(0x11EE0, 0x11EF8)]⟩,
    ⟨["malayalam", "mlym"],
      .ofRanges
        [(0xD00, 0xD0C), (0xD0E, 0xD10), (0xD12, 0xD44), (0xD46, 0xD48), (0xD4A, 0xD4F),
          (0xD54, 0xD63), (0xD66, 0xD7F)]⟩,
    ⟨["mandaic", "mand"], .ofRanges [(0x840, 0x85B), (0x85E, 0x85E)]⟩,
    ⟨["manichaean", "mani"], .ofRanges [(0x10AC0, 0x10AE6), (0x10AEB, 0x10AF6)]⟩,
    ⟨["marchen", "marc"], .ofRanges [(0x11C70, 0x11C8F), (0x11C92, 0x11CA7), (0x11CA9, 0x11CB6)]⟩,
    ⟨["masaramgondi", "gonm"],
      .ofRanges
        [(0x11D00, 0x11D06), (0x11D08, 0x11D09), (0x11D0B, 0x11D36), (0x11D3A, 0x11D3A),
          (0x11D3C, 0x11D3D), (0x11D3F, 0x11D47), (0x11D50, 0x11D59)]⟩,
    ⟨["medefaidrin", "medf"], .ofRanges [(0x16E40, 0x16E9A)]⟩,
    ⟨["meeteimayek", "mtei"], .ofRanges [(0xAAE0, 0xAAF6), (0xABC0, 0xABED), (0xABF0, 0xABF9)]⟩,
    ⟨["mendekikakui", "mend"], .ofRanges [(0x1E800, 0x1E8C4), (0x1E8C7, 0x1E8D6)]⟩,
    ⟨["meroiticcursive", "merc"],
      .ofRanges
        [(0x109A0, 0x109B7), (0x109BC, 0x109CF), (0x109D2, 0x109FF)]⟩,
    ⟨["meroitichieroglyphs", "mero"], .ofRanges [(0x10980, 0x1099F)]⟩,
    ⟨["miao", "plrd"], .ofRanges [(0x16F00, 0x16F4A), (0x16F4F, 0x16F87), (0x16F8F, 0x16F9F)]⟩,
    ⟨["modi"], .ofRanges [(0x11600, 0x11644), (0x11650, 0x11659)]⟩,
    ⟨["mongolian", "mong"],
      .ofRanges
        [(0x1800, 0x1801), (0x1804, 0x1804), (0x1806, 0x1819), (0x1820, 0x1878), (0x1880, 0x18AA),
          (0x11660, 0x1166C)]⟩,
    ⟨["mro", "mroo"], .ofRanges [(0x16A40, 0x16A5E), (0x16A60, 0x16A69), (0x16A6E, 0x16A6F)]⟩,
    ⟨["multani", "mult"],
      .ofRanges
        [(0x11280, 0x11286), (0x11288, 0x11288), (0x1128A, 0x1128D), (0x1128F, 0x1129D),
          (0x1129F, 0x112A9)]⟩,
    ⟨["myanmar", "mymr"],
      .ofRanges
        [(0x1000, 0x109F), (0xA9E0, 0xA9FE), (0xAA60, 0xAA7F), (0x116D0, 0x116E3)]⟩,
    ⟨["nabataean", "nbat"], .ofRanges [(0x10880, 0x1089E), (0x108A7, 0x108AF)]⟩,
    ⟨["nagmundari", "nagm"], .ofRanges [(0x1E4D0, 0x1E4F9)]⟩,
    ⟨["nandinagari", "nand"],
      .ofRanges
        [(0x119A0, 0x119A7), (0x119AA, 0x119D7), (0x119DA, 0x119E4)]⟩,
    ⟨["newtailue", "talu"],
      .ofRanges
        [(0x1980, 0x19AB), (0x19B0, 0x19C9), (0x19D0, 0x19DA), (0x19DE, 0x19DF)]⟩,
    ⟨["newa"], .ofRanges [(0x11400, 0x1145B), (0x1145D, 0x11461)]⟩,
    ⟨["nko", "nkoo"], .ofRanges [(0x7C0, 0x7FA), (0x7FD, 0x7FF)]⟩,
    ⟨["nushu", "nshu"], .ofRanges [(0x16FE1, 0x16FE1), (0x1B170, 0x1B2FB)]⟩,
    ⟨["nyiakengpuachuehmong", "hmnp"],
      .ofRanges
        [(0x1E100, 0x1E12C), (0x1E130, 0x1E13D), (0x1E140, 0x1E149), (0x1E14E, 0x1E14F)]⟩,
    ⟨["ogham", "ogam"], .ofRanges [(0x1680, 0x169C)]⟩,
    ⟨["olchiki", "olck"], .ofRanges [(0x1C50, 0x1C7F)]⟩,
    ⟨["olonal", "onao"], .ofRanges [(0x1E5D0, 0x1E5FA), (0x1E5FF, 0x1E5FF)]⟩,
    ⟨["oldhungarian", "hung"],
      .ofRanges
        [(0x10C80, 0x10CB2), (0x10CC0, 0x10CF2), (0x10CFA, 0x10CFF)]⟩,
    ⟨["olditalic", "ital"], .ofRanges [(0x10300, 0x10323), (0x1032D, 0x1032F)]⟩,
    ⟨["oldnortharabian", "narb"], .ofRanges [(0x10A80, 0x10A9F)]⟩,
    ⟨["oldpermic", "perm"], .ofRanges [(0x10350, 0x1037A)]⟩,
    ⟨["oldpersian", "xpeo"], .ofRanges [(0x103A0, 0x103C3), (0x103C8, 0x103D5)]⟩,
    ⟨["oldsogdian", "sogo"], .ofRanges [(0x10F00, 0x10F27)]⟩,
    ⟨["oldsoutharabian", "sarb"], .ofRanges [(0x10A60, 0x10A7F)]⟩,
    ⟨["oldturkic", "orkh"], .ofRanges [(0x10C00, 0x10C48)]⟩,
    ⟨["olduyghur", "ougr"], .ofRanges [(0x10F70, 0x10F89)]⟩,
    ⟨["oriya", "orya"],
      .ofRanges
        [(0xB01, 0xB03), (0xB05, 0xB0C), (0xB0F, 0xB10), (0xB13, 0xB28), (0xB2A, 0xB30),
          (0xB32, 0xB33), (0xB35, 0xB39), (0xB3C, 0xB44), (0xB47, 0xB48), (0xB4B, 0xB4D),
          (0xB55, 0xB57), (0xB5C, 0xB5D), (0xB5F, 0xB63), (0xB66, 0xB77)]⟩,
    ⟨["osage", "osge"], .ofRanges [(0x104B0, 0x104D3), (0x104D8, 0x104FB)]⟩,
    ⟨["osmanya", "osma"], .ofRanges [(0x10480, 0x1049D), (0x104A0, 0x104A9)]⟩,
    ⟨["pahawhhmong", "hmng"],
      .ofRanges
        [(0x16B00, 0x16B45), (0x16B50, 0x16B59), (0x16B5B, 0x16B61), (0x16B63, 0x16B77),
          (0x16B7D, 0x16B8F)]⟩,
    ⟨["palmyrene", "palm"], .ofRanges [(0x10860, 0x1087F)]⟩,
    ⟨["paucinhau", "pauc"], .ofRanges [(0x11AC0, 0x11AF8)]⟩,
    ⟨["phagspa", "phag"], .ofRanges [(0xA840, 0xA877)]⟩,
    ⟨["phoenician", "phnx"], .ofRanges [(0x10900, 0x1091B), (0x1091F, 0x1091F)]⟩,
    ⟨["psalterpahlavi", "phlp"],
      .ofRanges
        [(0x10B80, 0x10B91), (0x10B99, 0x10B9C), (0x10BA9, 0x10BAF)]⟩,
    ⟨["rejang", "rjng"], .ofRanges [(0xA930, 0xA953), (0xA95F, 0xA95F)]⟩,
    ⟨["runic", "runr"], .ofRanges [(0x16A0, 0x16EA), (0x16EE, 0x16F8)]⟩,
    ⟨["samaritan", "samr"], .ofRanges [(0x800, 0x82D), (0x830, 0x83E)]⟩,
    ⟨["saurashtra", "saur"], .ofRanges [(0xA880, 0xA8C5), (0xA8CE, 0xA8D9)]⟩,
    ⟨["sharada", "shrd"], .ofRanges [(0x11180, 0x111DF)]⟩,
    ⟨["shavian", "shaw"], .ofRanges [(0x10450, 0x1047F)]⟩,
    ⟨["siddham", "sidd"], .ofRanges [(0x11580, 0x115B5), (0x115B8, 0x115DD)]⟩,
    ⟨["signwriting", "sgnw"],
      .ofRanges
        [(0x1D800, 0x1DA8B), (0x1DA9B, 0x1DA9F), (0x1DAA1, 0x1DAAF)]⟩,
    ⟨["sinhala", "sinh"],
      .ofRanges
        [(0xD81, 0xD83), (0xD85, 0xD96), (0xD9A, 0xDB1), (0xDB3, 0xDBB), (0xDBD, 0xDBD),
          (0xDC0, 0xDC6), (0xDCA, 0xDCA), (0xDCF, 0xDD4), (0xDD6, 0xDD6), (0xDD8, 0xDDF),
          (0xDE6, 0xDEF), (0xDF2, 0xDF4), (0x111E1, 0x111F4)]⟩,
    ⟨["sogdian", "sogd"], .ofRanges [(0x10F30, 0x10F59)]⟩,
    ⟨["sorasompeng", "sora"], .ofRanges [(0x110D0, 0x110E8), (0x110F0, 0x110F9)]⟩,
    ⟨["soyombo", "soyo"], .ofRanges [(0x11A50, 0x11AA2)]⟩,
    ⟨["sundanese", "sund"], .ofRanges [(0x1B80, 0x1BBF), (0x1CC0, 0x1CC7)]⟩,
    ⟨["sunuwar", "sunu"], .ofRanges [(0x11BC0, 0x11BE1), (0x11BF0, 0x11BF9)]⟩,
    ⟨["sylotinagri", "sylo"], .ofRanges [(0xA800, 0xA82C)]⟩,
    ⟨["syriac", "syrc"],
      .ofRanges
        [(0x700, 0x70D), (0x70F, 0x74A), (0x74D, 0x74F), (0x860, 0x86A)]⟩,
    ⟨["tagalog", "tglg"], .ofRanges [(0x1700, 0x1715), (0x171F, 0x171F)]⟩,
    ⟨["tagbanwa", "tagb"], .ofRanges [(0x1760, 0x176C), (0x176E, 0x1770), (0x1772, 0x1773)]⟩,
    ⟨["taile", "tale"], .ofRanges [(0x1950, 0x196D), (0x1970, 0x1974)]⟩,
    ⟨["taitham", "lana"],
      .ofRanges
        [(0x1A20, 0x1A5E), (0x1A60, 0x1A7C), (0x1A7F, 0x1A89), (0x1A90, 0x1A99), (0x1AA0, 0x1AAD)]⟩,
    ⟨["taiviet", "tavt"], .ofRanges [(0xAA80, 0xAAC2), (0xAADB, 0xAADF)]⟩,
    ⟨["takri", "takr"], .ofRanges [(0x11680, 0x116B9), (0x116C0, 0x116C9)]⟩,
    ⟨["tamil", "taml"],
      .ofRanges
        [(0xB82, 0xB83), (0xB85, 0xB8A), (0xB8E, 0xB90), (0xB92, 0xB95), (0xB99, 0xB9A),
          (0xB9C, 0xB9C), (0xB9E, 0xB9F), (0xBA3, 0xBA4), (0xBA8, 0xBAA), (0xBAE, 0xBB9),
          (0xBBE, 0xBC2), (0xBC6, 0xBC8), (0xBCA, 0xBCD), (0xBD0, 0xBD0), (0xBD7, 0xBD7),
          (0xBE6, 0xBFA), (0x11FC0, 0x11FF1), (0x11FFF, 0x11FFF)]⟩,
    ⟨["tangsa", "tnsa"], .ofRanges [(0x16A70, 0x16ABE), (0x16AC0, 0x16AC9)]⟩,
    ⟨["tangut", "tang"],
      .ofRanges
        [(0x16FE0, 0x16FE0), (0x17000, 0x187F7), (0x18800, 0x18AFF), (0x18D00, 0x18D08)]⟩,
    ⟨["telugu", "telu"],
      .ofRanges
        [(0xC00, 0xC0C), (0xC0E, 0xC10), (0xC12, 0xC28), (0xC2A, 0xC39), (0xC3C, 0xC44),
          (0xC46, 0xC48), (0xC4A, 0xC4D), (0xC55, 0xC56), (0xC58, 0xC5A), (0xC5D, 0xC5D),
          (0xC60, 0xC63), (0xC66, 0xC6F), (0xC77, 0xC7F)]⟩,
    ⟨["thaana", "thaa"], .ofRanges [(0x780, 0x7B1)]⟩,
    ⟨["thai"], .ofRanges [(0xE01, 0xE3A), (0xE40, 0xE5B)]⟩,
    ⟨["tibetan", "tibt"],
      .ofRanges
        [(0xF00, 0xF47), (0xF49, 0xF6C), (0xF71, 0xF97), (0xF99, 0xFBC), (0xFBE, 0xFCC),
          (0xFCE, 0xFD4), (0xFD9, 0xFDA)]⟩,
    ⟨["tifinagh", "tfng"], .ofRanges [(0x2D30, 0x2D67), (0x2D6F, 0x2D70), (0x2D7F, 0x2D7F)]⟩,
    ⟨["tirhuta", "tirh"], .ofRanges [(0x11480, 0x114C7), (0x114D0, 0x114D9)]⟩,
    ⟨["todhri", "todr"], .ofRanges [(0x105C0, 0x105F3)]⟩,
    ⟨["toto"], .ofRanges [(0x1E290, 0x1E2AE)]⟩,
    ⟨["tulutigalari", "tutg"],
      .ofRanges
        [(0x11380, 0x11389), (0x1138B, 0x1138B), (0x1138E, 0x1138E), (0x11390, 0x113B5),
          (0x113B7, 0x113C0), (0x113C2, 0x113C2), (0x113C5, 0x113C5), (0x113C7, 0x113CA),
          (0x113CC, 0x113D5), (0x113D7, 0x113D8), (0x113E1, 0x113E2)]⟩,
    ⟨["ugaritic", "ugar"], .ofRanges [(0x10380, 0x1039D), (0x1039F, 0x1039F)]⟩,
    ⟨["vai", "vaii"], .ofRanges [(0xA500, 0xA62B)]⟩,
    ⟨["vithkuqi", "vith"],
      .ofRanges
        [(0x10570, 0x1057A), (0x1057C, 0x1058A), (0x1058C, 0x10592), (0x10594, 0x10595),
          (0x10597, 0x105A1), (0x105A3, 0x105B1), (0x105B3, 0x105B9), (0x105BB, 0x105BC)]⟩,
    ⟨["wancho", "wcho"], .ofRanges [(0x1E2C0, 0x1E2F9), (0x1E2FF, 0x1E2FF)]⟩,
    ⟨["warangciti", "wara"], .ofRanges [(0x118A0, 0x118F2), (0x118FF, 0x118FF)]⟩,
    ⟨["yezidi", "yezi"], .ofRanges [(0x10E80, 0x10EA9), (0x10EAB, 0x10EAD), (0x10EB0, 0x10EB1)]⟩,
    ⟨["yi", "yiii"], .ofRanges [(0xA000, 0xA48C), (0xA490, 0xA4C6)]⟩,
    ⟨["zanabazarsquare", "zanb"], .ofRanges [(0x11A00, 0x11A47)]⟩]

end Migration.Unicode.Script
