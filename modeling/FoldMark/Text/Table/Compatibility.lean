import FoldMark.Text.Table.Case

/-!
# Compatibility forms of ASCII text

Characters outside ASCII whose compatibility composition is ASCII text, such as the full-width
letters. Version 14 of the Unicode character database.
-/

namespace FoldMark.Text

/-- Characters that stand for one ASCII character. -/
def compatibilityRuns : Array CaseRun := #[
  ⟨0xA0, 0xA0, 1, -128⟩, ⟨0xAA, 0xAA, 1, -73⟩, ⟨0xB2, 0xB3, 1, -128⟩, ⟨0xB9, 0xB9, 1, -136⟩,
  ⟨0xBA, 0xBA, 1, -75⟩, ⟨0x17F, 0x17F, 1, -268⟩, ⟨0x2B0, 0x2B2, 2, -584⟩,
  ⟨0x2B3, 0x2B3, 1, -577⟩, ⟨0x2B7, 0x2B7, 1, -576⟩, ⟨0x2B8, 0x2B8, 1, -575⟩,
  ⟨0x2E1, 0x2E1, 1, -629⟩, ⟨0x2E2, 0x2E2, 1, -623⟩, ⟨0x2E3, 0x2E3, 1, -619⟩,
  ⟨0x37E, 0x37E, 1, -835⟩, ⟨0x1D2C, 0x1D2C, 1, -7403⟩, ⟨0x1D2E, 0x1D30, 2, -7404⟩,
  ⟨0x1D31, 0x1D33, 2, -7404⟩, ⟨0x1D34, 0x1D3A, 1, -7404⟩, ⟨0x1D3C, 0x1D3C, 1, -7405⟩,
  ⟨0x1D3E, 0x1D3E, 1, -7406⟩, ⟨0x1D3F, 0x1D3F, 1, -7405⟩, ⟨0x1D40, 0x1D41, 1, -7404⟩,
  ⟨0x1D42, 0x1D42, 1, -7403⟩, ⟨0x1D43, 0x1D43, 1, -7394⟩, ⟨0x1D47, 0x1D47, 1, -7397⟩,
  ⟨0x1D48, 0x1D49, 1, -7396⟩, ⟨0x1D4D, 0x1D4D, 1, -7398⟩, ⟨0x1D4F, 0x1D4F, 1, -7396⟩,
  ⟨0x1D50, 0x1D52, 2, -7395⟩, ⟨0x1D56, 0x1D56, 1, -7398⟩, ⟨0x1D57, 0x1D58, 1, -7395⟩,
  ⟨0x1D5B, 0x1D5B, 1, -7397⟩, ⟨0x1D62, 0x1D62, 1, -7417⟩, ⟨0x1D63, 0x1D63, 1, -7409⟩,
  ⟨0x1D64, 0x1D65, 1, -7407⟩, ⟨0x1D9C, 0x1D9C, 1, -7481⟩, ⟨0x1DA0, 0x1DA0, 1, -7482⟩,
  ⟨0x1DBB, 0x1DBB, 1, -7489⟩, ⟨0x1FEF, 0x1FEF, 1, -8079⟩, ⟨0x2000, 0x2000, 1, -8160⟩,
  ⟨0x2001, 0x2001, 1, -8161⟩, ⟨0x2002, 0x2002, 1, -8162⟩, ⟨0x2003, 0x2003, 1, -8163⟩,
  ⟨0x2004, 0x2004, 1, -8164⟩, ⟨0x2005, 0x2005, 1, -8165⟩, ⟨0x2006, 0x2006, 1, -8166⟩,
  ⟨0x2007, 0x2007, 1, -8167⟩, ⟨0x2008, 0x2008, 1, -8168⟩, ⟨0x2009, 0x2009, 1, -8169⟩,
  ⟨0x200A, 0x200A, 1, -8170⟩, ⟨0x2024, 0x2024, 1, -8182⟩, ⟨0x202F, 0x202F, 1, -8207⟩,
  ⟨0x205F, 0x205F, 1, -8255⟩, ⟨0x2070, 0x2070, 1, -8256⟩, ⟨0x2071, 0x2071, 1, -8200⟩,
  ⟨0x2074, 0x2079, 1, -8256⟩, ⟨0x207A, 0x207A, 1, -8271⟩, ⟨0x207C, 0x207C, 1, -8255⟩,
  ⟨0x207D, 0x207E, 1, -8277⟩, ⟨0x207F, 0x207F, 1, -8209⟩, ⟨0x2080, 0x2089, 1, -8272⟩,
  ⟨0x208A, 0x208A, 1, -8287⟩, ⟨0x208C, 0x208C, 1, -8271⟩, ⟨0x208D, 0x208E, 1, -8293⟩,
  ⟨0x2090, 0x2090, 1, -8239⟩, ⟨0x2091, 0x2091, 1, -8236⟩, ⟨0x2092, 0x2092, 1, -8227⟩,
  ⟨0x2093, 0x2093, 1, -8219⟩, ⟨0x2095, 0x2095, 1, -8237⟩, ⟨0x2096, 0x2099, 1, -8235⟩,
  ⟨0x209A, 0x209A, 1, -8234⟩, ⟨0x209B, 0x209C, 1, -8232⟩, ⟨0x2102, 0x2102, 1, -8383⟩,
  ⟨0x210A, 0x210A, 1, -8355⟩, ⟨0x210B, 0x210B, 1, -8387⟩, ⟨0x210C, 0x210C, 1, -8388⟩,
  ⟨0x210D, 0x210D, 1, -8389⟩, ⟨0x210E, 0x210E, 1, -8358⟩, ⟨0x2110, 0x2110, 1, -8391⟩,
  ⟨0x2111, 0x2111, 1, -8392⟩, ⟨0x2112, 0x2112, 1, -8390⟩, ⟨0x2113, 0x2113, 1, -8359⟩,
  ⟨0x2115, 0x2115, 1, -8391⟩, ⟨0x2119, 0x211B, 1, -8393⟩, ⟨0x211C, 0x211C, 1, -8394⟩,
  ⟨0x211D, 0x211D, 1, -8395⟩, ⟨0x2124, 0x2124, 1, -8394⟩, ⟨0x2128, 0x2128, 1, -8398⟩,
  ⟨0x212A, 0x212A, 1, -8415⟩, ⟨0x212C, 0x212D, 1, -8426⟩, ⟨0x212F, 0x212F, 1, -8394⟩,
  ⟨0x2130, 0x2131, 1, -8427⟩, ⟨0x2133, 0x2133, 1, -8422⟩, ⟨0x2134, 0x2134, 1, -8389⟩,
  ⟨0x2139, 0x2139, 1, -8400⟩, ⟨0x2145, 0x2145, 1, -8449⟩, ⟨0x2146, 0x2147, 1, -8418⟩,
  ⟨0x2148, 0x2149, 1, -8415⟩, ⟨0x2160, 0x2160, 1, -8471⟩, ⟨0x2164, 0x2164, 1, -8462⟩,
  ⟨0x2169, 0x2169, 1, -8465⟩, ⟨0x216C, 0x216C, 1, -8480⟩, ⟨0x216D, 0x216E, 1, -8490⟩,
  ⟨0x216F, 0x216F, 1, -8482⟩, ⟨0x2170, 0x2170, 1, -8455⟩, ⟨0x2174, 0x2174, 1, -8446⟩,
  ⟨0x2179, 0x2179, 1, -8449⟩, ⟨0x217C, 0x217C, 1, -8464⟩, ⟨0x217D, 0x217E, 1, -8474⟩,
  ⟨0x217F, 0x217F, 1, -8466⟩, ⟨0x2460, 0x2468, 1, -9263⟩, ⟨0x24B6, 0x24CF, 1, -9333⟩,
  ⟨0x24D0, 0x24E9, 1, -9327⟩, ⟨0x24EA, 0x24EA, 1, -9402⟩, ⟨0x2C7C, 0x2C7C, 1, -11282⟩,
  ⟨0x2C7D, 0x2C7D, 1, -11303⟩, ⟨0x3000, 0x3000, 1, -12256⟩, ⟨0xA7F2, 0xA7F2, 1, -42927⟩,
  ⟨0xA7F3, 0xA7F3, 1, -42925⟩, ⟨0xA7F4, 0xA7F4, 1, -42915⟩, ⟨0xFB29, 0xFB29, 1, -64254⟩,
  ⟨0xFE10, 0xFE10, 1, -64996⟩, ⟨0xFE13, 0xFE14, 1, -64985⟩, ⟨0xFE15, 0xFE15, 1, -65012⟩,
  ⟨0xFE16, 0xFE16, 1, -64983⟩, ⟨0xFE33, 0xFE33, 1, -64980⟩, ⟨0xFE34, 0xFE34, 1, -64981⟩,
  ⟨0xFE35, 0xFE36, 1, -65037⟩, ⟨0xFE37, 0xFE37, 1, -64956⟩, ⟨0xFE38, 0xFE38, 1, -64955⟩,
  ⟨0xFE47, 0xFE47, 1, -65004⟩, ⟨0xFE48, 0xFE48, 1, -65003⟩, ⟨0xFE4D, 0xFE4D, 1, -65006⟩,
  ⟨0xFE4E, 0xFE4E, 1, -65007⟩, ⟨0xFE4F, 0xFE4F, 1, -65008⟩, ⟨0xFE50, 0xFE52, 2, -65060⟩,
  ⟨0xFE54, 0xFE54, 1, -65049⟩, ⟨0xFE55, 0xFE55, 1, -65051⟩, ⟨0xFE56, 0xFE56, 1, -65047⟩,
  ⟨0xFE57, 0xFE57, 1, -65078⟩, ⟨0xFE59, 0xFE5A, 1, -65073⟩, ⟨0xFE5B, 0xFE5B, 1, -64992⟩,
  ⟨0xFE5C, 0xFE5C, 1, -64991⟩, ⟨0xFE5F, 0xFE5F, 1, -65084⟩, ⟨0xFE60, 0xFE60, 1, -65082⟩,
  ⟨0xFE61, 0xFE62, 1, -65079⟩, ⟨0xFE63, 0xFE63, 1, -65078⟩, ⟨0xFE64, 0xFE64, 1, -65064⟩,
  ⟨0xFE65, 0xFE65, 1, -65063⟩, ⟨0xFE66, 0xFE66, 1, -65065⟩, ⟨0xFE68, 0xFE68, 1, -65036⟩,
  ⟨0xFE69, 0xFE6A, 1, -65093⟩, ⟨0xFE6B, 0xFE6B, 1, -65067⟩, ⟨0xFF01, 0xFF5E, 1, -65248⟩,
  ⟨0x107A5, 0x107A5, 1, -67380⟩, ⟨0x1D400, 0x1D419, 1, -119743⟩, ⟨0x1D41A, 0x1D433, 1, -119737⟩,
  ⟨0x1D434, 0x1D44D, 1, -119795⟩, ⟨0x1D44E, 0x1D454, 1, -119789⟩, ⟨0x1D456, 0x1D467, 1, -119789⟩,
  ⟨0x1D468, 0x1D481, 1, -119847⟩, ⟨0x1D482, 0x1D49B, 1, -119841⟩, ⟨0x1D49C, 0x1D49E, 2, -119899⟩,
  ⟨0x1D49F, 0x1D49F, 1, -119899⟩, ⟨0x1D4A2, 0x1D4A2, 1, -119899⟩, ⟨0x1D4A5, 0x1D4A6, 1, -119899⟩,
  ⟨0x1D4A9, 0x1D4AC, 1, -119899⟩, ⟨0x1D4AE, 0x1D4B5, 1, -119899⟩, ⟨0x1D4B6, 0x1D4B9, 1, -119893⟩,
  ⟨0x1D4BB, 0x1D4BD, 2, -119893⟩, ⟨0x1D4BE, 0x1D4C3, 1, -119893⟩, ⟨0x1D4C5, 0x1D4CF, 1, -119893⟩,
  ⟨0x1D4D0, 0x1D4E9, 1, -119951⟩, ⟨0x1D4EA, 0x1D503, 1, -119945⟩, ⟨0x1D504, 0x1D505, 1, -120003⟩,
  ⟨0x1D507, 0x1D50A, 1, -120003⟩, ⟨0x1D50D, 0x1D514, 1, -120003⟩, ⟨0x1D516, 0x1D51C, 1, -120003⟩,
  ⟨0x1D51E, 0x1D537, 1, -119997⟩, ⟨0x1D538, 0x1D539, 1, -120055⟩, ⟨0x1D53B, 0x1D53E, 1, -120055⟩,
  ⟨0x1D540, 0x1D544, 1, -120055⟩, ⟨0x1D546, 0x1D546, 1, -120055⟩, ⟨0x1D54A, 0x1D550, 1, -120055⟩,
  ⟨0x1D552, 0x1D56B, 1, -120049⟩, ⟨0x1D56C, 0x1D585, 1, -120107⟩, ⟨0x1D586, 0x1D59F, 1, -120101⟩,
  ⟨0x1D5A0, 0x1D5B9, 1, -120159⟩, ⟨0x1D5BA, 0x1D5D3, 1, -120153⟩, ⟨0x1D5D4, 0x1D5ED, 1, -120211⟩,
  ⟨0x1D5EE, 0x1D607, 1, -120205⟩, ⟨0x1D608, 0x1D621, 1, -120263⟩, ⟨0x1D622, 0x1D63B, 1, -120257⟩,
  ⟨0x1D63C, 0x1D655, 1, -120315⟩, ⟨0x1D656, 0x1D66F, 1, -120309⟩, ⟨0x1D670, 0x1D689, 1, -120367⟩,
  ⟨0x1D68A, 0x1D6A3, 1, -120361⟩, ⟨0x1D7CE, 0x1D7D7, 1, -120734⟩, ⟨0x1D7D8, 0x1D7E1, 1, -120744⟩,
  ⟨0x1D7E2, 0x1D7EB, 1, -120754⟩, ⟨0x1D7EC, 0x1D7F5, 1, -120764⟩, ⟨0x1D7F6, 0x1D7FF, 1, -120774⟩,
  ⟨0x1F12B, 0x1F12B, 1, -127208⟩, ⟨0x1F12C, 0x1F12C, 1, -127194⟩, ⟨0x1F130, 0x1F149, 1, -127215⟩,
  ⟨0x1FBF0, 0x1FBF9, 1, -129984⟩]

/-- Characters that stand for several ASCII characters, as code points. -/
def compatibilityExpansions : List (Nat × List Nat) := [
  (0x132, [0x49, 0x4A]), (0x133, [0x69, 0x6A]), (0x1C7, [0x4C, 0x4A]), (0x1C8, [0x4C, 0x6A]),
  (0x1C9, [0x6C, 0x6A]), (0x1CA, [0x4E, 0x4A]), (0x1CB, [0x4E, 0x6A]), (0x1CC, [0x6E, 0x6A]),
  (0x1F1, [0x44, 0x5A]), (0x1F2, [0x44, 0x7A]), (0x1F3, [0x64, 0x7A]), (0x2025, [0x2E, 0x2E]),
  (0x2026, [0x2E, 0x2E, 0x2E]), (0x203C, [0x21, 0x21]), (0x2047, [0x3F, 0x3F]),
  (0x2048, [0x3F, 0x21]), (0x2049, [0x21, 0x3F]), (0x20A8, [0x52, 0x73]),
  (0x2100, [0x61, 0x2F, 0x63]), (0x2101, [0x61, 0x2F, 0x73]), (0x2105, [0x63, 0x2F, 0x6F]),
  (0x2106, [0x63, 0x2F, 0x75]), (0x2116, [0x4E, 0x6F]), (0x2120, [0x53, 0x4D]),
  (0x2121, [0x54, 0x45, 0x4C]), (0x2122, [0x54, 0x4D]), (0x213B, [0x46, 0x41, 0x58]),
  (0x2161, [0x49, 0x49]), (0x2162, [0x49, 0x49, 0x49]), (0x2163, [0x49, 0x56]),
  (0x2165, [0x56, 0x49]), (0x2166, [0x56, 0x49, 0x49]), (0x2167, [0x56, 0x49, 0x49, 0x49]),
  (0x2168, [0x49, 0x58]), (0x216A, [0x58, 0x49]), (0x216B, [0x58, 0x49, 0x49]),
  (0x2171, [0x69, 0x69]), (0x2172, [0x69, 0x69, 0x69]), (0x2173, [0x69, 0x76]),
  (0x2175, [0x76, 0x69]), (0x2176, [0x76, 0x69, 0x69]), (0x2177, [0x76, 0x69, 0x69, 0x69]),
  (0x2178, [0x69, 0x78]), (0x217A, [0x78, 0x69]), (0x217B, [0x78, 0x69, 0x69]),
  (0x2469, [0x31, 0x30]), (0x246A, [0x31, 0x31]), (0x246B, [0x31, 0x32]), (0x246C, [0x31, 0x33]),
  (0x246D, [0x31, 0x34]), (0x246E, [0x31, 0x35]), (0x246F, [0x31, 0x36]), (0x2470, [0x31, 0x37]),
  (0x2471, [0x31, 0x38]), (0x2472, [0x31, 0x39]), (0x2473, [0x32, 0x30]),
  (0x2474, [0x28, 0x31, 0x29]), (0x2475, [0x28, 0x32, 0x29]), (0x2476, [0x28, 0x33, 0x29]),
  (0x2477, [0x28, 0x34, 0x29]), (0x2478, [0x28, 0x35, 0x29]), (0x2479, [0x28, 0x36, 0x29]),
  (0x247A, [0x28, 0x37, 0x29]), (0x247B, [0x28, 0x38, 0x29]), (0x247C, [0x28, 0x39, 0x29]),
  (0x247D, [0x28, 0x31, 0x30, 0x29]), (0x247E, [0x28, 0x31, 0x31, 0x29]),
  (0x247F, [0x28, 0x31, 0x32, 0x29]), (0x2480, [0x28, 0x31, 0x33, 0x29]),
  (0x2481, [0x28, 0x31, 0x34, 0x29]), (0x2482, [0x28, 0x31, 0x35, 0x29]),
  (0x2483, [0x28, 0x31, 0x36, 0x29]), (0x2484, [0x28, 0x31, 0x37, 0x29]),
  (0x2485, [0x28, 0x31, 0x38, 0x29]), (0x2486, [0x28, 0x31, 0x39, 0x29]),
  (0x2487, [0x28, 0x32, 0x30, 0x29]), (0x2488, [0x31, 0x2E]), (0x2489, [0x32, 0x2E]),
  (0x248A, [0x33, 0x2E]), (0x248B, [0x34, 0x2E]), (0x248C, [0x35, 0x2E]), (0x248D, [0x36, 0x2E]),
  (0x248E, [0x37, 0x2E]), (0x248F, [0x38, 0x2E]), (0x2490, [0x39, 0x2E]),
  (0x2491, [0x31, 0x30, 0x2E]), (0x2492, [0x31, 0x31, 0x2E]), (0x2493, [0x31, 0x32, 0x2E]),
  (0x2494, [0x31, 0x33, 0x2E]), (0x2495, [0x31, 0x34, 0x2E]), (0x2496, [0x31, 0x35, 0x2E]),
  (0x2497, [0x31, 0x36, 0x2E]), (0x2498, [0x31, 0x37, 0x2E]), (0x2499, [0x31, 0x38, 0x2E]),
  (0x249A, [0x31, 0x39, 0x2E]), (0x249B, [0x32, 0x30, 0x2E]), (0x249C, [0x28, 0x61, 0x29]),
  (0x249D, [0x28, 0x62, 0x29]), (0x249E, [0x28, 0x63, 0x29]), (0x249F, [0x28, 0x64, 0x29]),
  (0x24A0, [0x28, 0x65, 0x29]), (0x24A1, [0x28, 0x66, 0x29]), (0x24A2, [0x28, 0x67, 0x29]),
  (0x24A3, [0x28, 0x68, 0x29]), (0x24A4, [0x28, 0x69, 0x29]), (0x24A5, [0x28, 0x6A, 0x29]),
  (0x24A6, [0x28, 0x6B, 0x29]), (0x24A7, [0x28, 0x6C, 0x29]), (0x24A8, [0x28, 0x6D, 0x29]),
  (0x24A9, [0x28, 0x6E, 0x29]), (0x24AA, [0x28, 0x6F, 0x29]), (0x24AB, [0x28, 0x70, 0x29]),
  (0x24AC, [0x28, 0x71, 0x29]), (0x24AD, [0x28, 0x72, 0x29]), (0x24AE, [0x28, 0x73, 0x29]),
  (0x24AF, [0x28, 0x74, 0x29]), (0x24B0, [0x28, 0x75, 0x29]), (0x24B1, [0x28, 0x76, 0x29]),
  (0x24B2, [0x28, 0x77, 0x29]), (0x24B3, [0x28, 0x78, 0x29]), (0x24B4, [0x28, 0x79, 0x29]),
  (0x24B5, [0x28, 0x7A, 0x29]), (0x2A74, [0x3A, 0x3A, 0x3D]), (0x2A75, [0x3D, 0x3D]),
  (0x2A76, [0x3D, 0x3D, 0x3D]), (0x3250, [0x50, 0x54, 0x45]), (0x3251, [0x32, 0x31]),
  (0x3252, [0x32, 0x32]), (0x3253, [0x32, 0x33]), (0x3254, [0x32, 0x34]), (0x3255, [0x32, 0x35]),
  (0x3256, [0x32, 0x36]), (0x3257, [0x32, 0x37]), (0x3258, [0x32, 0x38]), (0x3259, [0x32, 0x39]),
  (0x325A, [0x33, 0x30]), (0x325B, [0x33, 0x31]), (0x325C, [0x33, 0x32]), (0x325D, [0x33, 0x33]),
  (0x325E, [0x33, 0x34]), (0x325F, [0x33, 0x35]), (0x32B1, [0x33, 0x36]), (0x32B2, [0x33, 0x37]),
  (0x32B3, [0x33, 0x38]), (0x32B4, [0x33, 0x39]), (0x32B5, [0x34, 0x30]), (0x32B6, [0x34, 0x31]),
  (0x32B7, [0x34, 0x32]), (0x32B8, [0x34, 0x33]), (0x32B9, [0x34, 0x34]), (0x32BA, [0x34, 0x35]),
  (0x32BB, [0x34, 0x36]), (0x32BC, [0x34, 0x37]), (0x32BD, [0x34, 0x38]), (0x32BE, [0x34, 0x39]),
  (0x32BF, [0x35, 0x30]), (0x32CC, [0x48, 0x67]), (0x32CD, [0x65, 0x72, 0x67]),
  (0x32CE, [0x65, 0x56]), (0x32CF, [0x4C, 0x54, 0x44]), (0x3371, [0x68, 0x50, 0x61]),
  (0x3372, [0x64, 0x61]), (0x3373, [0x41, 0x55]), (0x3374, [0x62, 0x61, 0x72]),
  (0x3375, [0x6F, 0x56]), (0x3376, [0x70, 0x63]), (0x3377, [0x64, 0x6D]),
  (0x3378, [0x64, 0x6D, 0x32]), (0x3379, [0x64, 0x6D, 0x33]), (0x337A, [0x49, 0x55]),
  (0x3380, [0x70, 0x41]), (0x3381, [0x6E, 0x41]), (0x3383, [0x6D, 0x41]), (0x3384, [0x6B, 0x41]),
  (0x3385, [0x4B, 0x42]), (0x3386, [0x4D, 0x42]), (0x3387, [0x47, 0x42]),
  (0x3388, [0x63, 0x61, 0x6C]), (0x3389, [0x6B, 0x63, 0x61, 0x6C]), (0x338A, [0x70, 0x46]),
  (0x338B, [0x6E, 0x46]), (0x338E, [0x6D, 0x67]), (0x338F, [0x6B, 0x67]), (0x3390, [0x48, 0x7A]),
  (0x3391, [0x6B, 0x48, 0x7A]), (0x3392, [0x4D, 0x48, 0x7A]), (0x3393, [0x47, 0x48, 0x7A]),
  (0x3394, [0x54, 0x48, 0x7A]), (0x3396, [0x6D, 0x6C]), (0x3397, [0x64, 0x6C]),
  (0x3398, [0x6B, 0x6C]), (0x3399, [0x66, 0x6D]), (0x339A, [0x6E, 0x6D]), (0x339C, [0x6D, 0x6D]),
  (0x339D, [0x63, 0x6D]), (0x339E, [0x6B, 0x6D]), (0x339F, [0x6D, 0x6D, 0x32]),
  (0x33A0, [0x63, 0x6D, 0x32]), (0x33A1, [0x6D, 0x32]), (0x33A2, [0x6B, 0x6D, 0x32]),
  (0x33A3, [0x6D, 0x6D, 0x33]), (0x33A4, [0x63, 0x6D, 0x33]), (0x33A5, [0x6D, 0x33]),
  (0x33A6, [0x6B, 0x6D, 0x33]), (0x33A9, [0x50, 0x61]), (0x33AA, [0x6B, 0x50, 0x61]),
  (0x33AB, [0x4D, 0x50, 0x61]), (0x33AC, [0x47, 0x50, 0x61]), (0x33AD, [0x72, 0x61, 0x64]),
  (0x33B0, [0x70, 0x73]), (0x33B1, [0x6E, 0x73]), (0x33B3, [0x6D, 0x73]), (0x33B4, [0x70, 0x56]),
  (0x33B5, [0x6E, 0x56]), (0x33B7, [0x6D, 0x56]), (0x33B8, [0x6B, 0x56]), (0x33B9, [0x4D, 0x56]),
  (0x33BA, [0x70, 0x57]), (0x33BB, [0x6E, 0x57]), (0x33BD, [0x6D, 0x57]), (0x33BE, [0x6B, 0x57]),
  (0x33BF, [0x4D, 0x57]), (0x33C2, [0x61, 0x2E, 0x6D, 0x2E]), (0x33C3, [0x42, 0x71]),
  (0x33C4, [0x63, 0x63]), (0x33C5, [0x63, 0x64]), (0x33C7, [0x43, 0x6F, 0x2E]),
  (0x33C8, [0x64, 0x42]), (0x33C9, [0x47, 0x79]), (0x33CA, [0x68, 0x61]), (0x33CB, [0x48, 0x50]),
  (0x33CC, [0x69, 0x6E]), (0x33CD, [0x4B, 0x4B]), (0x33CE, [0x4B, 0x4D]), (0x33CF, [0x6B, 0x74]),
  (0x33D0, [0x6C, 0x6D]), (0x33D1, [0x6C, 0x6E]), (0x33D2, [0x6C, 0x6F, 0x67]),
  (0x33D3, [0x6C, 0x78]), (0x33D4, [0x6D, 0x62]), (0x33D5, [0x6D, 0x69, 0x6C]),
  (0x33D6, [0x6D, 0x6F, 0x6C]), (0x33D7, [0x50, 0x48]), (0x33D8, [0x70, 0x2E, 0x6D, 0x2E]),
  (0x33D9, [0x50, 0x50, 0x4D]), (0x33DA, [0x50, 0x52]), (0x33DB, [0x73, 0x72]),
  (0x33DC, [0x53, 0x76]), (0x33DD, [0x57, 0x62]), (0x33FF, [0x67, 0x61, 0x6C]),
  (0xFB00, [0x66, 0x66]), (0xFB01, [0x66, 0x69]), (0xFB02, [0x66, 0x6C]),
  (0xFB03, [0x66, 0x66, 0x69]), (0xFB04, [0x66, 0x66, 0x6C]), (0xFB05, [0x73, 0x74]),
  (0xFB06, [0x73, 0x74]), (0xFE19, [0x2E, 0x2E, 0x2E]), (0xFE30, [0x2E, 0x2E]),
  (0x1F100, [0x30, 0x2E]), (0x1F101, [0x30, 0x2C]), (0x1F102, [0x31, 0x2C]),
  (0x1F103, [0x32, 0x2C]), (0x1F104, [0x33, 0x2C]), (0x1F105, [0x34, 0x2C]),
  (0x1F106, [0x35, 0x2C]), (0x1F107, [0x36, 0x2C]), (0x1F108, [0x37, 0x2C]),
  (0x1F109, [0x38, 0x2C]), (0x1F10A, [0x39, 0x2C]), (0x1F110, [0x28, 0x41, 0x29]),
  (0x1F111, [0x28, 0x42, 0x29]), (0x1F112, [0x28, 0x43, 0x29]), (0x1F113, [0x28, 0x44, 0x29]),
  (0x1F114, [0x28, 0x45, 0x29]), (0x1F115, [0x28, 0x46, 0x29]), (0x1F116, [0x28, 0x47, 0x29]),
  (0x1F117, [0x28, 0x48, 0x29]), (0x1F118, [0x28, 0x49, 0x29]), (0x1F119, [0x28, 0x4A, 0x29]),
  (0x1F11A, [0x28, 0x4B, 0x29]), (0x1F11B, [0x28, 0x4C, 0x29]), (0x1F11C, [0x28, 0x4D, 0x29]),
  (0x1F11D, [0x28, 0x4E, 0x29]), (0x1F11E, [0x28, 0x4F, 0x29]), (0x1F11F, [0x28, 0x50, 0x29]),
  (0x1F120, [0x28, 0x51, 0x29]), (0x1F121, [0x28, 0x52, 0x29]), (0x1F122, [0x28, 0x53, 0x29]),
  (0x1F123, [0x28, 0x54, 0x29]), (0x1F124, [0x28, 0x55, 0x29]), (0x1F125, [0x28, 0x56, 0x29]),
  (0x1F126, [0x28, 0x57, 0x29]), (0x1F127, [0x28, 0x58, 0x29]), (0x1F128, [0x28, 0x59, 0x29]),
  (0x1F129, [0x28, 0x5A, 0x29]), (0x1F12D, [0x43, 0x44]), (0x1F12E, [0x57, 0x5A]),
  (0x1F14A, [0x48, 0x56]), (0x1F14B, [0x4D, 0x56]), (0x1F14C, [0x53, 0x44]),
  (0x1F14D, [0x53, 0x53]), (0x1F14E, [0x50, 0x50, 0x56]), (0x1F14F, [0x57, 0x43]),
  (0x1F16A, [0x4D, 0x43]), (0x1F16B, [0x4D, 0x44]), (0x1F16C, [0x4D, 0x52]),
  (0x1F190, [0x44, 0x4A])]

end FoldMark.Text
