/-!
# Characters that domain names replace

A domain name is written with small letters and plain digits: capital letters of other scripts,
and compatibility forms of ASCII characters, stand for another character. The table lists runs of
characters at an even distance, each with what its first character stands for.
-/

namespace UploadProbe.DomainMapping

/-- A run of characters that stand for characters at the same distances. -/
structure Run where
  first : Nat
  last : Nat
  stride : Nat
  target : Nat

def runs : List Run := [
  ⟨0xAA, 0xAA, 1, 0x61⟩, ⟨0xB2, 0xB3, 1, 0x32⟩, ⟨0xB9, 0xB9, 1, 0x31⟩, ⟨0xBA, 0xBA, 1, 0x6F⟩,
  ⟨0xC0, 0xD6, 1, 0xE0⟩, ⟨0xD8, 0xDE, 1, 0xF8⟩, ⟨0x100, 0x12E, 2, 0x101⟩, ⟨0x134, 0x136, 2, 0x135⟩,
  ⟨0x139, 0x13D, 2, 0x13A⟩, ⟨0x141, 0x147, 2, 0x142⟩, ⟨0x14A, 0x176, 2, 0x14B⟩,
  ⟨0x178, 0x178, 1, 0xFF⟩, ⟨0x179, 0x17D, 2, 0x17A⟩, ⟨0x17F, 0x17F, 1, 0x73⟩,
  ⟨0x181, 0x181, 1, 0x253⟩, ⟨0x182, 0x184, 2, 0x183⟩, ⟨0x186, 0x186, 1, 0x254⟩,
  ⟨0x187, 0x187, 1, 0x188⟩, ⟨0x189, 0x18A, 1, 0x256⟩, ⟨0x18B, 0x18B, 1, 0x18C⟩,
  ⟨0x18E, 0x18E, 1, 0x1DD⟩, ⟨0x18F, 0x18F, 1, 0x259⟩, ⟨0x190, 0x190, 1, 0x25B⟩,
  ⟨0x191, 0x191, 1, 0x192⟩, ⟨0x193, 0x193, 1, 0x260⟩, ⟨0x194, 0x194, 1, 0x263⟩,
  ⟨0x196, 0x196, 1, 0x269⟩, ⟨0x197, 0x197, 1, 0x268⟩, ⟨0x198, 0x198, 1, 0x199⟩,
  ⟨0x19C, 0x19C, 1, 0x26F⟩, ⟨0x19D, 0x19D, 1, 0x272⟩, ⟨0x19F, 0x19F, 1, 0x275⟩,
  ⟨0x1A0, 0x1A4, 2, 0x1A1⟩, ⟨0x1A6, 0x1A6, 1, 0x280⟩, ⟨0x1A7, 0x1A7, 1, 0x1A8⟩,
  ⟨0x1A9, 0x1A9, 1, 0x283⟩, ⟨0x1AC, 0x1AC, 1, 0x1AD⟩, ⟨0x1AE, 0x1AE, 1, 0x288⟩,
  ⟨0x1AF, 0x1AF, 1, 0x1B0⟩, ⟨0x1B1, 0x1B2, 1, 0x28A⟩, ⟨0x1B3, 0x1B5, 2, 0x1B4⟩,
  ⟨0x1B7, 0x1B7, 1, 0x292⟩, ⟨0x1B8, 0x1B8, 1, 0x1B9⟩, ⟨0x1BC, 0x1BC, 1, 0x1BD⟩,
  ⟨0x1CD, 0x1DB, 2, 0x1CE⟩, ⟨0x1DE, 0x1EE, 2, 0x1DF⟩, ⟨0x1F4, 0x1F4, 1, 0x1F5⟩,
  ⟨0x1F6, 0x1F6, 1, 0x195⟩, ⟨0x1F7, 0x1F7, 1, 0x1BF⟩, ⟨0x1F8, 0x21E, 2, 0x1F9⟩,
  ⟨0x220, 0x220, 1, 0x19E⟩, ⟨0x222, 0x232, 2, 0x223⟩, ⟨0x23A, 0x23A, 1, 0x2C65⟩,
  ⟨0x23B, 0x23B, 1, 0x23C⟩, ⟨0x23D, 0x23D, 1, 0x19A⟩, ⟨0x23E, 0x23E, 1, 0x2C66⟩,
  ⟨0x241, 0x241, 1, 0x242⟩, ⟨0x243, 0x243, 1, 0x180⟩, ⟨0x244, 0x244, 1, 0x289⟩,
  ⟨0x245, 0x245, 1, 0x28C⟩, ⟨0x246, 0x24E, 2, 0x247⟩, ⟨0x2B0, 0x2B0, 1, 0x68⟩,
  ⟨0x2B2, 0x2B2, 1, 0x6A⟩, ⟨0x2B3, 0x2B3, 1, 0x72⟩, ⟨0x2B7, 0x2B7, 1, 0x77⟩,
  ⟨0x2B8, 0x2B8, 1, 0x79⟩, ⟨0x2E1, 0x2E1, 1, 0x6C⟩, ⟨0x2E2, 0x2E2, 1, 0x73⟩,
  ⟨0x2E3, 0x2E3, 1, 0x78⟩, ⟨0x370, 0x372, 2, 0x371⟩, ⟨0x376, 0x376, 1, 0x377⟩,
  ⟨0x37F, 0x37F, 1, 0x3F3⟩, ⟨0x386, 0x386, 1, 0x3AC⟩, ⟨0x388, 0x38A, 1, 0x3AD⟩,
  ⟨0x38C, 0x38C, 1, 0x3CC⟩, ⟨0x38E, 0x38F, 1, 0x3CD⟩, ⟨0x391, 0x3A1, 1, 0x3B1⟩,
  ⟨0x3A3, 0x3AB, 1, 0x3C3⟩, ⟨0x3CF, 0x3CF, 1, 0x3D7⟩, ⟨0x3D8, 0x3EE, 2, 0x3D9⟩,
  ⟨0x3F7, 0x3F7, 1, 0x3F8⟩, ⟨0x3FA, 0x3FA, 1, 0x3FB⟩, ⟨0x3FD, 0x3FF, 1, 0x37B⟩,
  ⟨0x400, 0x40F, 1, 0x450⟩, ⟨0x410, 0x42F, 1, 0x430⟩, ⟨0x460, 0x480, 2, 0x461⟩,
  ⟨0x48A, 0x4BE, 2, 0x48B⟩, ⟨0x4C0, 0x4C0, 1, 0x4CF⟩, ⟨0x4C1, 0x4CD, 2, 0x4C2⟩,
  ⟨0x4D0, 0x52E, 2, 0x4D1⟩, ⟨0x531, 0x556, 1, 0x561⟩, ⟨0x10A0, 0x10C5, 1, 0x2D00⟩,
  ⟨0x10C7, 0x10C7, 1, 0x2D27⟩, ⟨0x10CD, 0x10CD, 1, 0x2D2D⟩, ⟨0x13A0, 0x13EF, 1, 0xAB70⟩,
  ⟨0x13F0, 0x13F5, 1, 0x13F8⟩, ⟨0x1C90, 0x1CBA, 1, 0x10D0⟩, ⟨0x1CBD, 0x1CBF, 1, 0x10FD⟩,
  ⟨0x1D2C, 0x1D2C, 1, 0x61⟩, ⟨0x1D2E, 0x1D2E, 1, 0x62⟩, ⟨0x1D30, 0x1D31, 1, 0x64⟩,
  ⟨0x1D33, 0x1D3A, 1, 0x67⟩, ⟨0x1D3C, 0x1D3C, 1, 0x6F⟩, ⟨0x1D3E, 0x1D3E, 1, 0x70⟩,
  ⟨0x1D3F, 0x1D3F, 1, 0x72⟩, ⟨0x1D40, 0x1D41, 1, 0x74⟩, ⟨0x1D42, 0x1D42, 1, 0x77⟩,
  ⟨0x1D43, 0x1D43, 1, 0x61⟩, ⟨0x1D47, 0x1D47, 1, 0x62⟩, ⟨0x1D48, 0x1D49, 1, 0x64⟩,
  ⟨0x1D4D, 0x1D4D, 1, 0x67⟩, ⟨0x1D4F, 0x1D4F, 1, 0x6B⟩, ⟨0x1D50, 0x1D50, 1, 0x6D⟩,
  ⟨0x1D52, 0x1D52, 1, 0x6F⟩, ⟨0x1D56, 0x1D56, 1, 0x70⟩, ⟨0x1D57, 0x1D58, 1, 0x74⟩,
  ⟨0x1D5B, 0x1D5B, 1, 0x76⟩, ⟨0x1D62, 0x1D62, 1, 0x69⟩, ⟨0x1D63, 0x1D63, 1, 0x72⟩,
  ⟨0x1D64, 0x1D65, 1, 0x75⟩, ⟨0x1D9C, 0x1D9C, 1, 0x63⟩, ⟨0x1DA0, 0x1DA0, 1, 0x66⟩,
  ⟨0x1DBB, 0x1DBB, 1, 0x7A⟩, ⟨0x1E00, 0x1E94, 2, 0x1E01⟩, ⟨0x1E9E, 0x1E9E, 1, 0xDF⟩,
  ⟨0x1EA0, 0x1EFE, 2, 0x1EA1⟩, ⟨0x1F08, 0x1F0F, 1, 0x1F00⟩, ⟨0x1F18, 0x1F1D, 1, 0x1F10⟩,
  ⟨0x1F28, 0x1F2F, 1, 0x1F20⟩, ⟨0x1F38, 0x1F3F, 1, 0x1F30⟩, ⟨0x1F48, 0x1F4D, 1, 0x1F40⟩,
  ⟨0x1F59, 0x1F5F, 2, 0x1F51⟩, ⟨0x1F68, 0x1F6F, 1, 0x1F60⟩, ⟨0x1F88, 0x1F8F, 1, 0x1F80⟩,
  ⟨0x1F98, 0x1F9F, 1, 0x1F90⟩, ⟨0x1FA8, 0x1FAF, 1, 0x1FA0⟩, ⟨0x1FB8, 0x1FB9, 1, 0x1FB0⟩,
  ⟨0x1FBA, 0x1FBA, 1, 0x1F70⟩, ⟨0x1FBC, 0x1FBC, 1, 0x1FB3⟩, ⟨0x1FC8, 0x1FCA, 2, 0x1F72⟩,
  ⟨0x1FCC, 0x1FCC, 1, 0x1FC3⟩, ⟨0x1FD8, 0x1FD9, 1, 0x1FD0⟩, ⟨0x1FDA, 0x1FDA, 1, 0x1F76⟩,
  ⟨0x1FE8, 0x1FE9, 1, 0x1FE0⟩, ⟨0x1FEA, 0x1FEA, 1, 0x1F7A⟩, ⟨0x1FEC, 0x1FEC, 1, 0x1FE5⟩,
  ⟨0x1FF8, 0x1FF8, 1, 0x1F78⟩, ⟨0x1FFA, 0x1FFA, 1, 0x1F7C⟩, ⟨0x1FFC, 0x1FFC, 1, 0x1FF3⟩,
  ⟨0x2024, 0x2024, 1, 0x2E⟩, ⟨0x2070, 0x2070, 1, 0x30⟩, ⟨0x2071, 0x2071, 1, 0x69⟩,
  ⟨0x2074, 0x2079, 1, 0x34⟩, ⟨0x207F, 0x207F, 1, 0x6E⟩, ⟨0x2080, 0x2089, 1, 0x30⟩,
  ⟨0x2090, 0x2090, 1, 0x61⟩, ⟨0x2091, 0x2091, 1, 0x65⟩, ⟨0x2092, 0x2092, 1, 0x6F⟩,
  ⟨0x2093, 0x2093, 1, 0x78⟩, ⟨0x2095, 0x2095, 1, 0x68⟩, ⟨0x2096, 0x2099, 1, 0x6B⟩,
  ⟨0x209A, 0x209A, 1, 0x70⟩, ⟨0x209B, 0x209C, 1, 0x73⟩, ⟨0x2102, 0x2102, 1, 0x63⟩,
  ⟨0x210A, 0x210B, 1, 0x67⟩, ⟨0x210C, 0x210C, 1, 0x68⟩, ⟨0x210D, 0x210D, 1, 0x68⟩,
  ⟨0x210E, 0x210E, 1, 0x68⟩, ⟨0x2110, 0x2110, 1, 0x69⟩, ⟨0x2111, 0x2111, 1, 0x69⟩,
  ⟨0x2112, 0x2112, 1, 0x6C⟩, ⟨0x2113, 0x2113, 1, 0x6C⟩, ⟨0x2115, 0x2115, 1, 0x6E⟩,
  ⟨0x2119, 0x211B, 1, 0x70⟩, ⟨0x211C, 0x211C, 1, 0x72⟩, ⟨0x211D, 0x211D, 1, 0x72⟩,
  ⟨0x2124, 0x2124, 1, 0x7A⟩, ⟨0x2128, 0x2128, 1, 0x7A⟩, ⟨0x212A, 0x212A, 1, 0x6B⟩,
  ⟨0x212C, 0x212D, 1, 0x62⟩, ⟨0x212F, 0x212F, 1, 0x65⟩, ⟨0x2130, 0x2131, 1, 0x65⟩,
  ⟨0x2132, 0x2132, 1, 0x214E⟩, ⟨0x2133, 0x2133, 1, 0x6D⟩, ⟨0x2134, 0x2134, 1, 0x6F⟩,
  ⟨0x2139, 0x2139, 1, 0x69⟩, ⟨0x2145, 0x2145, 1, 0x64⟩, ⟨0x2146, 0x2147, 1, 0x64⟩,
  ⟨0x2148, 0x2149, 1, 0x69⟩, ⟨0x2160, 0x2160, 1, 0x69⟩, ⟨0x2164, 0x2164, 1, 0x76⟩,
  ⟨0x2169, 0x2169, 1, 0x78⟩, ⟨0x216C, 0x216C, 1, 0x6C⟩, ⟨0x216D, 0x216E, 1, 0x63⟩,
  ⟨0x216F, 0x216F, 1, 0x6D⟩, ⟨0x2170, 0x2170, 1, 0x69⟩, ⟨0x2174, 0x2174, 1, 0x76⟩,
  ⟨0x2179, 0x2179, 1, 0x78⟩, ⟨0x217C, 0x217C, 1, 0x6C⟩, ⟨0x217D, 0x217E, 1, 0x63⟩,
  ⟨0x217F, 0x217F, 1, 0x6D⟩, ⟨0x2183, 0x2183, 1, 0x2184⟩, ⟨0x2460, 0x2468, 1, 0x31⟩,
  ⟨0x24B6, 0x24CF, 1, 0x61⟩, ⟨0x24D0, 0x24E9, 1, 0x61⟩, ⟨0x24EA, 0x24EA, 1, 0x30⟩,
  ⟨0x2C00, 0x2C2F, 1, 0x2C30⟩, ⟨0x2C60, 0x2C60, 1, 0x2C61⟩, ⟨0x2C62, 0x2C62, 1, 0x26B⟩,
  ⟨0x2C63, 0x2C63, 1, 0x1D7D⟩, ⟨0x2C64, 0x2C64, 1, 0x27D⟩, ⟨0x2C67, 0x2C6B, 2, 0x2C68⟩,
  ⟨0x2C6D, 0x2C6D, 1, 0x251⟩, ⟨0x2C6E, 0x2C6E, 1, 0x271⟩, ⟨0x2C6F, 0x2C6F, 1, 0x250⟩,
  ⟨0x2C70, 0x2C70, 1, 0x252⟩, ⟨0x2C72, 0x2C72, 1, 0x2C73⟩, ⟨0x2C75, 0x2C75, 1, 0x2C76⟩,
  ⟨0x2C7C, 0x2C7C, 1, 0x6A⟩, ⟨0x2C7D, 0x2C7D, 1, 0x76⟩, ⟨0x2C7E, 0x2C7F, 1, 0x23F⟩,
  ⟨0x2C80, 0x2CE2, 2, 0x2C81⟩, ⟨0x2CEB, 0x2CED, 2, 0x2CEC⟩, ⟨0x2CF2, 0x2CF2, 1, 0x2CF3⟩,
  ⟨0x3002, 0x3002, 1, 0x2E⟩, ⟨0xA640, 0xA66C, 2, 0xA641⟩, ⟨0xA680, 0xA69A, 2, 0xA681⟩,
  ⟨0xA722, 0xA72E, 2, 0xA723⟩, ⟨0xA732, 0xA76E, 2, 0xA733⟩, ⟨0xA779, 0xA77B, 2, 0xA77A⟩,
  ⟨0xA77D, 0xA77D, 1, 0x1D79⟩, ⟨0xA77E, 0xA786, 2, 0xA77F⟩, ⟨0xA78B, 0xA78B, 1, 0xA78C⟩,
  ⟨0xA78D, 0xA78D, 1, 0x265⟩, ⟨0xA790, 0xA792, 2, 0xA791⟩, ⟨0xA796, 0xA7A8, 2, 0xA797⟩,
  ⟨0xA7AA, 0xA7AA, 1, 0x266⟩, ⟨0xA7AB, 0xA7AB, 1, 0x25C⟩, ⟨0xA7AC, 0xA7AC, 1, 0x261⟩,
  ⟨0xA7AD, 0xA7AD, 1, 0x26C⟩, ⟨0xA7AE, 0xA7AE, 1, 0x26A⟩, ⟨0xA7B0, 0xA7B0, 1, 0x29E⟩,
  ⟨0xA7B1, 0xA7B1, 1, 0x287⟩, ⟨0xA7B2, 0xA7B2, 1, 0x29D⟩, ⟨0xA7B3, 0xA7B3, 1, 0xAB53⟩,
  ⟨0xA7B4, 0xA7C2, 2, 0xA7B5⟩, ⟨0xA7C4, 0xA7C4, 1, 0xA794⟩, ⟨0xA7C5, 0xA7C5, 1, 0x282⟩,
  ⟨0xA7C6, 0xA7C6, 1, 0x1D8E⟩, ⟨0xA7C7, 0xA7C9, 2, 0xA7C8⟩, ⟨0xA7D0, 0xA7D0, 1, 0xA7D1⟩,
  ⟨0xA7D6, 0xA7D8, 2, 0xA7D7⟩, ⟨0xA7F2, 0xA7F2, 1, 0x63⟩, ⟨0xA7F3, 0xA7F3, 1, 0x66⟩,
  ⟨0xA7F4, 0xA7F4, 1, 0x71⟩, ⟨0xA7F5, 0xA7F5, 1, 0xA7F6⟩, ⟨0xFE52, 0xFE52, 1, 0x2E⟩,
  ⟨0xFE63, 0xFE63, 1, 0x2D⟩, ⟨0xFF01, 0xFF20, 1, 0x21⟩, ⟨0xFF21, 0xFF3A, 1, 0x61⟩,
  ⟨0xFF3B, 0xFF5E, 1, 0x5B⟩, ⟨0xFF61, 0xFF61, 1, 0x2E⟩,
  ⟨0x10400, 0x10427, 1, 0x10428⟩, ⟨0x104B0, 0x104D3, 1, 0x104D8⟩, ⟨0x10570, 0x10594, 2, 0x10597⟩,
  ⟨0x10571, 0x10579, 2, 0x10598⟩, ⟨0x1057D, 0x10589, 2, 0x105A4⟩, ⟨0x1058D, 0x10591, 2, 0x105B4⟩,
  ⟨0x10595, 0x10595, 1, 0x105BC⟩, ⟨0x107A5, 0x107A5, 1, 0x71⟩, ⟨0x10C80, 0x10CB2, 1, 0x10CC0⟩,
  ⟨0x118A0, 0x118BF, 1, 0x118C0⟩, ⟨0x16E40, 0x16E5F, 1, 0x16E60⟩, ⟨0x1D400, 0x1D419, 1, 0x61⟩,
  ⟨0x1D41A, 0x1D433, 1, 0x61⟩, ⟨0x1D434, 0x1D44D, 1, 0x61⟩, ⟨0x1D44E, 0x1D454, 1, 0x61⟩,
  ⟨0x1D456, 0x1D467, 1, 0x69⟩, ⟨0x1D468, 0x1D481, 1, 0x61⟩, ⟨0x1D482, 0x1D49B, 1, 0x61⟩,
  ⟨0x1D49C, 0x1D49C, 1, 0x61⟩, ⟨0x1D49E, 0x1D49F, 1, 0x63⟩, ⟨0x1D4A2, 0x1D4A2, 1, 0x67⟩,
  ⟨0x1D4A5, 0x1D4A6, 1, 0x6A⟩, ⟨0x1D4A9, 0x1D4AC, 1, 0x6E⟩, ⟨0x1D4AE, 0x1D4B5, 1, 0x73⟩,
  ⟨0x1D4B6, 0x1D4B9, 1, 0x61⟩, ⟨0x1D4BB, 0x1D4BB, 1, 0x66⟩, ⟨0x1D4BD, 0x1D4C3, 1, 0x68⟩,
  ⟨0x1D4C5, 0x1D4CF, 1, 0x70⟩, ⟨0x1D4D0, 0x1D4E9, 1, 0x61⟩, ⟨0x1D4EA, 0x1D503, 1, 0x61⟩,
  ⟨0x1D504, 0x1D505, 1, 0x61⟩, ⟨0x1D507, 0x1D50A, 1, 0x64⟩, ⟨0x1D50D, 0x1D514, 1, 0x6A⟩,
  ⟨0x1D516, 0x1D51C, 1, 0x73⟩, ⟨0x1D51E, 0x1D537, 1, 0x61⟩, ⟨0x1D538, 0x1D539, 1, 0x61⟩,
  ⟨0x1D53B, 0x1D53E, 1, 0x64⟩, ⟨0x1D540, 0x1D544, 1, 0x69⟩, ⟨0x1D546, 0x1D546, 1, 0x6F⟩,
  ⟨0x1D54A, 0x1D550, 1, 0x73⟩, ⟨0x1D552, 0x1D56B, 1, 0x61⟩, ⟨0x1D56C, 0x1D585, 1, 0x61⟩,
  ⟨0x1D586, 0x1D59F, 1, 0x61⟩, ⟨0x1D5A0, 0x1D5B9, 1, 0x61⟩, ⟨0x1D5BA, 0x1D5D3, 1, 0x61⟩,
  ⟨0x1D5D4, 0x1D5ED, 1, 0x61⟩, ⟨0x1D5EE, 0x1D607, 1, 0x61⟩, ⟨0x1D608, 0x1D621, 1, 0x61⟩,
  ⟨0x1D622, 0x1D63B, 1, 0x61⟩, ⟨0x1D63C, 0x1D655, 1, 0x61⟩, ⟨0x1D656, 0x1D66F, 1, 0x61⟩,
  ⟨0x1D670, 0x1D689, 1, 0x61⟩, ⟨0x1D68A, 0x1D6A3, 1, 0x61⟩, ⟨0x1D7CE, 0x1D7D7, 1, 0x30⟩,
  ⟨0x1D7D8, 0x1D7E1, 1, 0x30⟩, ⟨0x1D7E2, 0x1D7EB, 1, 0x30⟩, ⟨0x1D7EC, 0x1D7F5, 1, 0x30⟩,
  ⟨0x1D7F6, 0x1D7FF, 1, 0x30⟩, ⟨0x1E900, 0x1E921, 1, 0x1E922⟩, ⟨0x1F12B, 0x1F12B, 1, 0x63⟩,
  ⟨0x1F12C, 0x1F12C, 1, 0x72⟩, ⟨0x1F130, 0x1F149, 1, 0x61⟩, ⟨0x1FBF0, 0x1FBF9, 1, 0x30⟩]

/-- What a scalar value stands for in a domain name, if it stands for another. -/
def replacement? (scalar : Nat) : Option Nat :=
  (runs.find? fun run =>
    run.first ≤ scalar && scalar ≤ run.last && (scalar - run.first) % run.stride = 0).map
    fun run => run.target + (scalar - run.first)

/-- The ranges of characters that a domain name leaves out. -/
def droppedRanges : List (Nat × Nat) := [
  (0xAD, 0xAD), (0x34F, 0x34F), (0x180B, 0x180D), (0x180F, 0x180F), (0x200B, 0x200B),
  (0x2060, 0x2060), (0x2064, 0x2064), (0xFE00, 0xFE0F), (0xFEFF, 0xFEFF), (0xE0100, 0xE01EF)]

end UploadProbe.DomainMapping
