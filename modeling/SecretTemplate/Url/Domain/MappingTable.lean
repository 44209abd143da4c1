import SecretTemplate.Text.Ranges

/-!
# Domain mapping

The mapping of Unicode Technical Standard 46: what a character of a domain is replaced by. A
character in none of the lists stands for itself. All lists are in increasing order.
-/

namespace SecretTemplate.Domain

open Text

def mappedRunsFirst : List Run := [
  ⟨0x41, 0x5A, 1, 32⟩, ⟨0xA0, 0xA0, 1, -128⟩, ⟨0xAA, 0xAA, 1, -73⟩, ⟨0xB2, 0xB3, 1, -128⟩,
  ⟨0xB5, 0xB5, 1, 775⟩, ⟨0xB9, 0xB9, 1, -136⟩, ⟨0xBA, 0xBA, 1, -75⟩, ⟨0xC0, 0xD6, 1, 32⟩,
  ⟨0xD8, 0xDE, 1, 32⟩, ⟨0x100, 0x12E, 2, 1⟩, ⟨0x134, 0x136, 2, 1⟩, ⟨0x139, 0x13D, 2, 1⟩,
  ⟨0x141, 0x147, 2, 1⟩, ⟨0x14A, 0x176, 2, 1⟩, ⟨0x178, 0x178, 1, -121⟩, ⟨0x179, 0x17D, 2, 1⟩,
  ⟨0x17F, 0x17F, 1, -268⟩, ⟨0x181, 0x181, 1, 210⟩, ⟨0x182, 0x184, 2, 1⟩, ⟨0x186, 0x186, 1, 206⟩,
  ⟨0x187, 0x187, 1, 1⟩, ⟨0x189, 0x18A, 1, 205⟩, ⟨0x18B, 0x18B, 1, 1⟩, ⟨0x18E, 0x18E, 1, 79⟩,
  ⟨0x18F, 0x18F, 1, 202⟩, ⟨0x190, 0x190, 1, 203⟩, ⟨0x191, 0x191, 1, 1⟩, ⟨0x193, 0x193, 1, 205⟩,
  ⟨0x194, 0x194, 1, 207⟩, ⟨0x196, 0x196, 1, 211⟩, ⟨0x197, 0x197, 1, 209⟩, ⟨0x198, 0x198, 1, 1⟩,
  ⟨0x19C, 0x19C, 1, 211⟩, ⟨0x19D, 0x19D, 1, 213⟩, ⟨0x19F, 0x19F, 1, 214⟩, ⟨0x1A0, 0x1A4, 2, 1⟩,
  ⟨0x1A6, 0x1A6, 1, 218⟩, ⟨0x1A7, 0x1A7, 1, 1⟩, ⟨0x1A9, 0x1A9, 1, 218⟩, ⟨0x1AC, 0x1AC, 1, 1⟩,
  ⟨0x1AE, 0x1AE, 1, 218⟩, ⟨0x1AF, 0x1AF, 1, 1⟩, ⟨0x1B1, 0x1B2, 1, 217⟩, ⟨0x1B3, 0x1B5, 2, 1⟩,
  ⟨0x1B7, 0x1B7, 1, 219⟩, ⟨0x1B8, 0x1B8, 1, 1⟩, ⟨0x1BC, 0x1BC, 1, 1⟩, ⟨0x1CD, 0x1DB, 2, 1⟩,
  ⟨0x1DE, 0x1EE, 2, 1⟩, ⟨0x1F4, 0x1F4, 1, 1⟩, ⟨0x1F6, 0x1F6, 1, -97⟩, ⟨0x1F7, 0x1F7, 1, -56⟩,
  ⟨0x1F8, 0x21E, 2, 1⟩, ⟨0x220, 0x220, 1, -130⟩, ⟨0x222, 0x232, 2, 1⟩, ⟨0x23A, 0x23A, 1, 10795⟩,
  ⟨0x23B, 0x23B, 1, 1⟩, ⟨0x23D, 0x23D, 1, -163⟩, ⟨0x23E, 0x23E, 1, 10792⟩, ⟨0x241, 0x241, 1, 1⟩,
  ⟨0x243, 0x243, 1, -195⟩, ⟨0x244, 0x244, 1, 69⟩, ⟨0x245, 0x245, 1, 71⟩, ⟨0x246, 0x24E, 2, 1⟩,
  ⟨0x2B0, 0x2B0, 1, -584⟩, ⟨0x2B1, 0x2B1, 1, -75⟩, ⟨0x2B2, 0x2B2, 1, -584⟩, ⟨0x2B3, 0x2B3, 1, -577⟩,
  ⟨0x2B4, 0x2B4, 1, -59⟩, ⟨0x2B5, 0x2B5, 1, -58⟩, ⟨0x2B6, 0x2B6, 1, -53⟩, ⟨0x2B7, 0x2B7, 1, -576⟩,
  ⟨0x2B8, 0x2B8, 1, -575⟩, ⟨0x2E0, 0x2E0, 1, -125⟩, ⟨0x2E1, 0x2E1, 1, -629⟩,
  ⟨0x2E2, 0x2E2, 1, -623⟩, ⟨0x2E3, 0x2E3, 1, -619⟩, ⟨0x2E4, 0x2E4, 1, -79⟩, ⟨0x340, 0x341, 1, -64⟩,
  ⟨0x343, 0x343, 1, -48⟩, ⟨0x345, 0x345, 1, 116⟩, ⟨0x370, 0x372, 2, 1⟩, ⟨0x374, 0x374, 1, -187⟩,
  ⟨0x376, 0x376, 1, 1⟩, ⟨0x37E, 0x37E, 1, -835⟩, ⟨0x37F, 0x37F, 1, 116⟩, ⟨0x386, 0x386, 1, 38⟩,
  ⟨0x387, 0x387, 1, -720⟩, ⟨0x388, 0x38A, 1, 37⟩, ⟨0x38C, 0x38C, 1, 64⟩, ⟨0x38E, 0x38F, 1, 63⟩,
  ⟨0x391, 0x3A1, 1, 32⟩, ⟨0x3A3, 0x3AB, 1, 32⟩, ⟨0x3CF, 0x3CF, 1, 8⟩, ⟨0x3D0, 0x3D0, 1, -30⟩,
  ⟨0x3D1, 0x3D1, 1, -25⟩, ⟨0x3D2, 0x3D2, 1, -13⟩, ⟨0x3D3, 0x3D3, 1, -6⟩, ⟨0x3D4, 0x3D4, 1, -9⟩,
  ⟨0x3D5, 0x3D5, 1, -15⟩, ⟨0x3D6, 0x3D6, 1, -22⟩, ⟨0x3D8, 0x3EE, 2, 1⟩, ⟨0x3F0, 0x3F0, 1, -54⟩,
  ⟨0x3F1, 0x3F1, 1, -48⟩, ⟨0x3F2, 0x3F2, 1, -47⟩, ⟨0x3F4, 0x3F4, 1, -60⟩, ⟨0x3F5, 0x3F5, 1, -64⟩,
  ⟨0x3F7, 0x3F7, 1, 1⟩, ⟨0x3F9, 0x3F9, 1, -54⟩, ⟨0x3FA, 0x3FA, 1, 1⟩, ⟨0x3FD, 0x3FF, 1, -130⟩,
  ⟨0x400, 0x40F, 1, 80⟩, ⟨0x410, 0x42F, 1, 32⟩, ⟨0x460, 0x480, 2, 1⟩, ⟨0x48A, 0x4BE, 2, 1⟩,
  ⟨0x4C0, 0x4C0, 1, 15⟩, ⟨0x4C1, 0x4CD, 2, 1⟩, ⟨0x4D0, 0x52E, 2, 1⟩, ⟨0x531, 0x556, 1, 48⟩,
  ⟨0xF0C, 0xF0C, 1, -1⟩, ⟨0x10A0, 0x10C5, 1, 7264⟩, ⟨0x10C7, 0x10C7, 1, 7264⟩,
  ⟨0x10CD, 0x10CD, 1, 7264⟩, ⟨0x10FC, 0x10FC, 1, -32⟩, ⟨0x13F8, 0x13FD, 1, -8⟩,
  ⟨0x1C80, 0x1C80, 1, -6222⟩, ⟨0x1C81, 0x1C81, 1, -6221⟩, ⟨0x1C82, 0x1C82, 1, -6212⟩,
  ⟨0x1C83, 0x1C84, 1, -6210⟩, ⟨0x1C85, 0x1C85, 1, -6211⟩, ⟨0x1C86, 0x1C86, 1, -6204⟩,
  ⟨0x1C87, 0x1C87, 1, -6180⟩, ⟨0x1C88, 0x1C88, 1, 35267⟩, ⟨0x1C89, 0x1C89, 1, 1⟩,
  ⟨0x1C90, 0x1CBA, 1, -3008⟩, ⟨0x1CBD, 0x1CBF, 1, -3008⟩, ⟨0x1D2C, 0x1D2C, 1, -7371⟩,
  ⟨0x1D2D, 0x1D2D, 1, -7239⟩, ⟨0x1D2E, 0x1D30, 2, -7372⟩, ⟨0x1D31, 0x1D31, 1, -7372⟩,
  ⟨0x1D32, 0x1D32, 1, -6997⟩, ⟨0x1D33, 0x1D3A, 1, -7372⟩, ⟨0x1D3C, 0x1D3C, 1, -7373⟩,
  ⟨0x1D3D, 0x1D3D, 1, -6938⟩, ⟨0x1D3E, 0x1D3E, 1, -7374⟩, ⟨0x1D3F, 0x1D3F, 1, -7373⟩,
  ⟨0x1D40, 0x1D41, 1, -7372⟩, ⟨0x1D42, 0x1D42, 1, -7371⟩, ⟨0x1D43, 0x1D43, 1, -7394⟩,
  ⟨0x1D44, 0x1D45, 1, -6900⟩, ⟨0x1D46, 0x1D46, 1, -68⟩, ⟨0x1D47, 0x1D47, 1, -7397⟩,
  ⟨0x1D48, 0x1D49, 1, -7396⟩, ⟨0x1D4A, 0x1D4A, 1, -6897⟩, ⟨0x1D4B, 0x1D4C, 1, -6896⟩,
  ⟨0x1D4D, 0x1D4D, 1, -7398⟩, ⟨0x1D4F, 0x1D4F, 1, -7396⟩, ⟨0x1D50, 0x1D50, 1, -7395⟩,
  ⟨0x1D51, 0x1D51, 1, -7174⟩, ⟨0x1D52, 0x1D52, 1, -7395⟩, ⟨0x1D53, 0x1D53, 1, -6911⟩,
  ⟨0x1D54, 0x1D55, 1, -62⟩, ⟨0x1D56, 0x1D56, 1, -7398⟩, ⟨0x1D57, 0x1D58, 1, -7395⟩,
  ⟨0x1D59, 0x1D59, 1, -60⟩, ⟨0x1D5A, 0x1D5A, 1, -6891⟩, ⟨0x1D5B, 0x1D5B, 1, -7397⟩,
  ⟨0x1D5C, 0x1D5C, 1, -55⟩, ⟨0x1D5D, 0x1D5F, 1, -6571⟩, ⟨0x1D60, 0x1D61, 1, -6554⟩,
  ⟨0x1D62, 0x1D62, 1, -7417⟩, ⟨0x1D63, 0x1D63, 1, -7409⟩, ⟨0x1D64, 0x1D65, 1, -7407⟩,
  ⟨0x1D66, 0x1D67, 1, -6580⟩, ⟨0x1D68, 0x1D68, 1, -6567⟩, ⟨0x1D69, 0x1D6A, 1, -6563⟩,
  ⟨0x1D78, 0x1D78, 1, -6459⟩, ⟨0x1D9B, 0x1D9B, 1, -6985⟩, ⟨0x1D9C, 0x1D9C, 1, -7481⟩,
  ⟨0x1D9D, 0x1D9D, 1, -6984⟩, ⟨0x1D9E, 0x1D9E, 1, -7342⟩, ⟨0x1D9F, 0x1D9F, 1, -6979⟩,
  ⟨0x1DA0, 0x1DA0, 1, -7482⟩, ⟨0x1DA1, 0x1DA1, 1, -6978⟩, ⟨0x1DA2, 0x1DA2, 1, -6977⟩,
  ⟨0x1DA3, 0x1DA3, 1, -6974⟩, ⟨0x1DA4, 0x1DA6, 1, -6972⟩, ⟨0x1DA7, 0x1DA7, 1, -44⟩,
  ⟨0x1DA8, 0x1DA8, 1, -6923⟩, ⟨0x1DA9, 0x1DA9, 1, -6972⟩, ⟨0x1DAA, 0x1DAA, 1, -37⟩,
  ⟨0x1DAB, 0x1DAB, 1, -6924⟩, ⟨0x1DAC, 0x1DAC, 1, -6971⟩, ⟨0x1DAD, 0x1DAD, 1, -6973⟩,
  ⟨0x1DAE, 0x1DB1, 1, -6972⟩, ⟨0x1DB2, 0x1DB2, 1, -6970⟩, ⟨0x1DB3, 0x1DB4, 1, -6961⟩,
  ⟨0x1DB5, 0x1DB5, 1, -7178⟩, ⟨0x1DB6, 0x1DB7, 1, -6957⟩, ⟨0x1DB8, 0x1DB8, 1, -156⟩,
  ⟨0x1DB9, 0x1DBA, 1, -6958⟩, ⟨0x1DBB, 0x1DBB, 1, -7489⟩, ⟨0x1DBC, 0x1DBE, 1, -6956⟩,
  ⟨0x1DBF, 0x1DBF, 1, -6663⟩, ⟨0x1E00, 0x1E94, 2, 1⟩, ⟨0x1E9B, 0x1E9B, 1, -58⟩,
  ⟨0x1E9E, 0x1E9E, 1, -7615⟩, ⟨0x1EA0, 0x1EFE, 2, 1⟩, ⟨0x1F08, 0x1F0F, 1, -8⟩,
  ⟨0x1F18, 0x1F1D, 1, -8⟩, ⟨0x1F28, 0x1F2F, 1, -8⟩, ⟨0x1F38, 0x1F3F, 1, -8⟩,
  ⟨0x1F48, 0x1F4D, 1, -8⟩, ⟨0x1F59, 0x1F5F, 2, -8⟩, ⟨0x1F68, 0x1F6F, 1, -8⟩,
  ⟨0x1F71, 0x1F71, 1, -7109⟩, ⟨0x1F73, 0x1F73, 1, -7110⟩, ⟨0x1F75, 0x1F75, 1, -7111⟩,
  ⟨0x1F77, 0x1F77, 1, -7112⟩, ⟨0x1F79, 0x1F79, 1, -7085⟩, ⟨0x1F7B, 0x1F7B, 1, -7086⟩,
  ⟨0x1F7D, 0x1F7D, 1, -7087⟩, ⟨0x1FB8, 0x1FB9, 1, -8⟩, ⟨0x1FBA, 0x1FBA, 1, -74⟩,
  ⟨0x1FBB, 0x1FBB, 1, -7183⟩, ⟨0x1FBE, 0x1FBE, 1, -7173⟩, ⟨0x1FC8, 0x1FC8, 1, -86⟩,
  ⟨0x1FC9, 0x1FC9, 1, -7196⟩, ⟨0x1FCA, 0x1FCA, 1, -86⟩, ⟨0x1FCB, 0x1FCB, 1, -7197⟩,
  ⟨0x1FD3, 0x1FD3, 1, -7235⟩, ⟨0x1FD8, 0x1FD9, 1, -8⟩, ⟨0x1FDA, 0x1FDA, 1, -100⟩,
  ⟨0x1FDB, 0x1FDB, 1, -7212⟩, ⟨0x1FE3, 0x1FE3, 1, -7219⟩, ⟨0x1FE8, 0x1FE9, 1, -8⟩,
  ⟨0x1FEA, 0x1FEA, 1, -112⟩, ⟨0x1FEB, 0x1FEB, 1, -7198⟩, ⟨0x1FEC, 0x1FEC, 1, -7⟩,
  ⟨0x1FEF, 0x1FEF, 1, -8079⟩, ⟨0x1FF8, 0x1FF8, 1, -128⟩, ⟨0x1FF9, 0x1FF9, 1, -7213⟩,
  ⟨0x1FFA, 0x1FFA, 1, -126⟩, ⟨0x1FFB, 0x1FFB, 1, -7213⟩, ⟨0x2000, 0x2000, 1, -8160⟩,
  ⟨0x2001, 0x2001, 1, -8161⟩, ⟨0x2002, 0x2002, 1, -8162⟩, ⟨0x2003, 0x2003, 1, -8163⟩,
  ⟨0x2004, 0x2004, 1, -8164⟩, ⟨0x2005, 0x2005, 1, -8165⟩, ⟨0x2006, 0x2006, 1, -8166⟩,
  ⟨0x2007, 0x2007, 1, -8167⟩, ⟨0x2008, 0x2008, 1, -8168⟩, ⟨0x2009, 0x2009, 1, -8169⟩,
  ⟨0x200A, 0x200A, 1, -8170⟩, ⟨0x2011, 0x2011, 1, -1⟩, ⟨0x202F, 0x202F, 1, -8207⟩,
  ⟨0x205F, 0x205F, 1, -8255⟩, ⟨0x2070, 0x2070, 1, -8256⟩, ⟨0x2071, 0x2071, 1, -8200⟩,
  ⟨0x2074, 0x2079, 1, -8256⟩, ⟨0x207A, 0x207A, 1, -8271⟩, ⟨0x207B, 0x207B, 1, 407⟩,
  ⟨0x207C, 0x207C, 1, -8255⟩, ⟨0x207D, 0x207E, 1, -8277⟩, ⟨0x207F, 0x207F, 1, -8209⟩,
  ⟨0x2080, 0x2089, 1, -8272⟩, ⟨0x208A, 0x208A, 1, -8287⟩, ⟨0x208B, 0x208B, 1, 391⟩,
  ⟨0x208C, 0x208C, 1, -8271⟩, ⟨0x208D, 0x208E, 1, -8293⟩, ⟨0x2090, 0x2090, 1, -8239⟩,
  ⟨0x2091, 0x2091, 1, -8236⟩, ⟨0x2092, 0x2092, 1, -8227⟩, ⟨0x2093, 0x2093, 1, -8219⟩,
  ⟨0x2094, 0x2094, 1, -7739⟩, ⟨0x2095, 0x2095, 1, -8237⟩, ⟨0x2096, 0x2099, 1, -8235⟩,
  ⟨0x209A, 0x209A, 1, -8234⟩, ⟨0x209B, 0x209C, 1, -8232⟩, ⟨0x2102, 0x2102, 1, -8351⟩,
  ⟨0x2107, 0x2107, 1, -7852⟩, ⟨0x210A, 0x210B, 1, -8355⟩, ⟨0x210C, 0x210C, 1, -8356⟩,
  ⟨0x210D, 0x210D, 1, -8357⟩, ⟨0x210E, 0x210E, 1, -8358⟩, ⟨0x210F, 0x210F, 1, -8168⟩,
  ⟨0x2110, 0x2110, 1, -8359⟩, ⟨0x2111, 0x2111, 1, -8360⟩, ⟨0x2112, 0x2112, 1, -8358⟩,
  ⟨0x2113, 0x2115, 2, -8359⟩, ⟨0x2119, 0x211B, 1, -8361⟩, ⟨0x211C, 0x211C, 1, -8362⟩,
  ⟨0x211D, 0x211D, 1, -8363⟩, ⟨0x2124, 0x2124, 1, -8362⟩, ⟨0x2126, 0x2126, 1, -7517⟩,
  ⟨0x2128, 0x2128, 1, -8366⟩, ⟨0x212A, 0x212A, 1, -8383⟩, ⟨0x212B, 0x212B, 1, -8262⟩,
  ⟨0x212C, 0x212D, 1, -8394⟩, ⟨0x212F, 0x212F, 1, -8394⟩, ⟨0x2130, 0x2131, 1, -8395⟩,
  ⟨0x2132, 0x2132, 1, 28⟩, ⟨0x2133, 0x2133, 1, -8390⟩, ⟨0x2134, 0x2134, 1, -8389⟩,
  ⟨0x2135, 0x2138, 1, -7013⟩, ⟨0x2139, 0x2139, 1, -8400⟩, ⟨0x213C, 0x213C, 1, -7548⟩,
  ⟨0x213D, 0x213D, 1, -7562⟩, ⟨0x213E, 0x213E, 1, -7563⟩, ⟨0x213F, 0x213F, 1, -7551⟩,
  ⟨0x2140, 0x2140, 1, 209⟩, ⟨0x2145, 0x2145, 1, -8417⟩, ⟨0x2146, 0x2147, 1, -8418⟩,
  ⟨0x2148, 0x2149, 1, -8415⟩, ⟨0x2160, 0x2160, 1, -8439⟩, ⟨0x2164, 0x2164, 1, -8430⟩,
  ⟨0x2169, 0x2169, 1, -8433⟩, ⟨0x216C, 0x216C, 1, -8448⟩, ⟨0x216D, 0x216E, 1, -8458⟩,
  ⟨0x216F, 0x216F, 1, -8450⟩, ⟨0x2170, 0x2170, 1, -8455⟩, ⟨0x2174, 0x2174, 1, -8446⟩,
  ⟨0x2179, 0x2179, 1, -8449⟩, ⟨0x217C, 0x217C, 1, -8464⟩, ⟨0x217D, 0x217E, 1, -8474⟩,
  ⟨0x217F, 0x217F, 1, -8466⟩, ⟨0x2183, 0x2183, 1, 1⟩, ⟨0x2329, 0x232A, 1, 3295⟩,
  ⟨0x2460, 0x2468, 1, -9263⟩, ⟨0x24B6, 0x24CF, 1, -9301⟩, ⟨0x24D0, 0x24E9, 1, -9327⟩,
  ⟨0x24EA, 0x24EA, 1, -9402⟩, ⟨0x2C00, 0x2C2F, 1, 48⟩, ⟨0x2C60, 0x2C60, 1, 1⟩,
  ⟨0x2C62, 0x2C62, 1, -10743⟩, ⟨0x2C63, 0x2C63, 1, -3814⟩, ⟨0x2C64, 0x2C64, 1, -10727⟩,
  ⟨0x2C67, 0x2C6B, 2, 1⟩, ⟨0x2C6D, 0x2C6D, 1, -10780⟩, ⟨0x2C6E, 0x2C6E, 1, -10749⟩,
  ⟨0x2C6F, 0x2C6F, 1, -10783⟩, ⟨0x2C70, 0x2C70, 1, -10782⟩, ⟨0x2C72, 0x2C72, 1, 1⟩,
  ⟨0x2C75, 0x2C75, 1, 1⟩, ⟨0x2C7C, 0x2C7C, 1, -11282⟩, ⟨0x2C7D, 0x2C7D, 1, -11271⟩,
  ⟨0x2C7E, 0x2C7F, 1, -10815⟩, ⟨0x2C80, 0x2CE2, 2, 1⟩, ⟨0x2CEB, 0x2CED, 2, 1⟩,
  ⟨0x2CF2, 0x2CF2, 1, 1⟩, ⟨0x2D6F, 0x2D6F, 1, -14⟩, ⟨0x2E9F, 0x2E9F, 1, 15662⟩,
  ⟨0x2EF3, 0x2EF3, 1, 28844⟩, ⟨0x2F00, 0x2F00, 1, 7936⟩, ⟨0x2F01, 0x2F01, 1, 7975⟩,
  ⟨0x2F02, 0x2F02, 1, 7988⟩, ⟨0x2F03, 0x2F03, 1, 7996⟩, ⟨0x2F04, 0x2F04, 1, 8021⟩,
  ⟨0x2F05, 0x2F05, 1, 8064⟩, ⟨0x2F06, 0x2F06, 1, 8070⟩, ⟨0x2F07, 0x2F07, 1, 8089⟩,
  ⟨0x2F08, 0x2F08, 1, 8114⟩, ⟨0x2F09, 0x2F09, 1, 8758⟩, ⟨0x2F0A, 0x2F0A, 1, 8795⟩,
  ⟨0x2F0B, 0x2F0B, 1, 8800⟩, ⟨0x2F0C, 0x2F0C, 1, 8822⟩, ⟨0x2F0D, 0x2F0D, 1, 8841⟩,
  ⟨0x2F0E, 0x2F0E, 1, 8861⟩, ⟨0x2F0F, 0x2F0F, 1, 8913⟩, ⟨0x2F10, 0x2F10, 1, 8933⟩,
  ⟨0x2F11, 0x2F11, 1, 8943⟩, ⟨0x2F12, 0x2F12, 1, 9097⟩, ⟨0x2F13, 0x2F13, 1, 9190⟩,
  ⟨0x2F14, 0x2F14, 1, 9217⟩, ⟨0x2F15, 0x2F15, 1, 9221⟩, ⟨0x2F16, 0x2F16, 1, 9250⟩,
  ⟨0x2F17, 0x2F17, 1, 9258⟩, ⟨0x2F18, 0x2F18, 1, 9284⟩, ⟨0x2F19, 0x2F19, 1, 9296⟩,
  ⟨0x2F1A, 0x2F1A, 1, 9320⟩, ⟨0x2F1B, 0x2F1B, 1, 9371⟩, ⟨0x2F1C, 0x2F1C, 1, 9388⟩,
  ⟨0x2F1D, 0x2F1D, 1, 9414⟩, ⟨0x2F1E, 0x2F1E, 1, 10169⟩, ⟨0x2F1F, 0x2F1F, 1, 10240⟩,
  ⟨0x2F20, 0x2F20, 1, 10699⟩, ⟨0x2F21, 0x2F21, 1, 10721⟩, ⟨0x2F22, 0x2F22, 1, 10728⟩,
  ⟨0x2F23, 0x2F23, 1, 10738⟩, ⟨0x2F24, 0x2F24, 1, 10755⟩, ⟨0x2F25, 0x2F25, 1, 10830⟩,
  ⟨0x2F26, 0x2F26, 1, 11306⟩, ⟨0x2F27, 0x2F27, 1, 11353⟩, ⟨0x2F28, 0x2F28, 1, 11472⟩,
  ⟨0x2F29, 0x2F29, 1, 11494⟩, ⟨0x2F2A, 0x2F2A, 1, 11512⟩, ⟨0x2F2B, 0x2F2B, 1, 11533⟩,
  ⟨0x2F2C, 0x2F2C, 1, 11586⟩, ⟨0x2F2D, 0x2F2D, 1, 11588⟩, ⟨0x2F2E, 0x2F2E, 1, 11949⟩,
  ⟨0x2F2F, 0x2F2F, 1, 11958⟩, ⟨0x2F30, 0x2F30, 1, 11969⟩, ⟨0x2F31, 0x2F31, 1, 11981⟩,
  ⟨0x2F32, 0x2F32, 1, 12096⟩, ⟨0x2F33, 0x2F33, 1, 12103⟩, ⟨0x2F34, 0x2F34, 1, 12107⟩,
  ⟨0x2F35, 0x2F35, 1, 12223⟩, ⟨0x2F36, 0x2F36, 1, 12232⟩, ⟨0x2F37, 0x2F37, 1, 12244⟩,
  ⟨0x2F38, 0x2F38, 1, 12251⟩, ⟨0x2F39, 0x2F39, 1, 12311⟩, ⟨0x2F3A, 0x2F3A, 1, 12327⟩,
  ⟨0x2F3B, 0x2F3B, 1, 12344⟩, ⟨0x2F3C, 0x2F3C, 1, 12423⟩, ⟨0x2F3D, 0x2F3D, 1, 13003⟩,
  ⟨0x2F3E, 0x2F3E, 1, 13048⟩, ⟨0x2F3F, 0x2F3F, 1, 13068⟩, ⟨0x2F40, 0x2F40, 1, 13807⟩,
  ⟨0x2F41, 0x2F41, 1, 13811⟩, ⟨0x2F42, 0x2F42, 1, 13893⟩, ⟨0x2F43, 0x2F43, 1, 13908⟩,
  ⟨0x2F44, 0x2F44, 1, 13920⟩, ⟨0x2F45, 0x2F45, 1, 13940⟩, ⟨0x2F46, 0x2F46, 1, 13978⟩,
  ⟨0x2F47, 0x2F47, 1, 13982⟩, ⟨0x2F48, 0x2F48, 1, 14248⟩, ⟨0x2F49, 0x2F49, 1, 14271⟩,
  ⟨0x2F4A, 0x2F4A, 1, 14302⟩, ⟨0x2F4B, 0x2F4B, 1, 15317⟩, ⟨0x2F4C, 0x2F4C, 1, 15382⟩,
  ⟨0x2F4D, 0x2F4D, 1, 15404⟩, ⟨0x2F4E, 0x2F4E, 1, 15461⟩, ⟨0x2F4F, 0x2F4F, 1, 15484⟩,
  ⟨0x2F50, 0x2F50, 1, 15492⟩, ⟨0x2F51, 0x2F51, 1, 15498⟩, ⟨0x2F52, 0x2F52, 1, 15549⟩,
  ⟨0x2F53, 0x2F53, 1, 15553⟩, ⟨0x2F54, 0x2F54, 1, 15584⟩, ⟨0x2F55, 0x2F55, 1, 16662⟩,
  ⟨0x2F56, 0x2F56, 1, 17108⟩, ⟨0x2F57, 0x2F57, 1, 17119⟩, ⟨0x2F58, 0x2F58, 1, 17123⟩,
  ⟨0x2F59, 0x2F59, 1, 17126⟩, ⟨0x2F5A, 0x2F5A, 1, 17133⟩, ⟨0x2F5B, 0x2F5B, 1, 17150⟩,
  ⟨0x2F5C, 0x2F5C, 1, 17151⟩, ⟨0x2F5D, 0x2F5D, 1, 17231⟩, ⟨0x2F5E, 0x2F5E, 1, 17446⟩,
  ⟨0x2F5F, 0x2F5F, 1, 17450⟩, ⟨0x2F60, 0x2F60, 1, 17788⟩, ⟨0x2F61, 0x2F61, 1, 17797⟩,
  ⟨0x2F62, 0x2F62, 1, 17846⟩, ⟨0x2F63, 0x2F63, 1, 17852⟩, ⟨0x2F64, 0x2F64, 1, 17860⟩,
  ⟨0x2F65, 0x2F65, 1, 17867⟩, ⟨0x2F66, 0x2F66, 1, 17957⟩, ⟨0x2F67, 0x2F67, 1, 17963⟩,
  ⟨0x2F68, 0x2F68, 1, 18190⟩, ⟨0x2F69, 0x2F69, 1, 18196⟩, ⟨0x2F6A, 0x2F6A, 1, 18244⟩,
  ⟨0x2F6B, 0x2F6B, 1, 18260⟩, ⟨0x2F6C, 0x2F6C, 1, 18306⟩, ⟨0x2F6D, 0x2F6D, 1, 18542⟩,
  ⟨0x2F6E, 0x2F6E, 1, 18548⟩, ⟨0x2F6F, 0x2F6F, 1, 18564⟩, ⟨0x2F70, 0x2F70, 1, 18890⟩,
  ⟨0x2F71, 0x2F71, 1, 19015⟩, ⟨0x2F72, 0x2F72, 1, 19020⟩, ⟨0x2F73, 0x2F73, 1, 19201⟩,
  ⟨0x2F74, 0x2F74, 1, 19287⟩, ⟨0x2F75, 0x2F75, 1, 19332⟩, ⟨0x2F76, 0x2F76, 1, 19709⟩,
  ⟨0x2F77, 0x2F77, 1, 19841⟩, ⟨0x2F78, 0x2F78, 1, 20414⟩, ⟨0x2F79, 0x2F79, 1, 20440⟩,
  ⟨0x2F7A, 0x2F7A, 1, 20496⟩, ⟨0x2F7B, 0x2F7B, 1, 20546⟩, ⟨0x2F7C, 0x2F7C, 1, 20613⟩,
  ⟨0x2F7D, 0x2F7D, 1, 20623⟩, ⟨0x2F7E, 0x2F7E, 1, 20628⟩, ⟨0x2F7F, 0x2F7F, 1, 20660⟩,
  ⟨0x2F80, 0x2F80, 1, 20735⟩, ⟨0x2F81, 0x2F81, 1, 20744⟩, ⟨0x2F82, 0x2F82, 1, 21089⟩,
  ⟨0x2F83, 0x2F83, 1, 21095⟩, ⟨0x2F84, 0x2F84, 1, 21103⟩, ⟨0x2F85, 0x2F85, 1, 21111⟩,
  ⟨0x2F86, 0x2F86, 1, 21126⟩, ⟨0x2F87, 0x2F87, 1, 21140⟩, ⟨0x2F88, 0x2F88, 1, 21143⟩,
  ⟨0x2F89, 0x2F89, 1, 21221⟩, ⟨0x2F8A, 0x2F8A, 1, 21224⟩, ⟨0x2F8B, 0x2F8B, 1, 21229⟩,
  ⟨0x2F8C, 0x2F8C, 1, 22209⟩, ⟨0x2F8D, 0x2F8D, 1, 22238⟩, ⟨0x2F8E, 0x2F8E, 1, 22706⟩,
  ⟨0x2F8F, 0x2F8F, 1, 22717⟩, ⟨0x2F90, 0x2F90, 1, 22739⟩, ⟨0x2F91, 0x2F91, 1, 23021⟩,
  ⟨0x2F92, 0x2F92, 1, 23033⟩, ⟨0x2F93, 0x2F93, 1, 23103⟩, ⟨0x2F94, 0x2F94, 1, 23148⟩,
  ⟨0x2F95, 0x2F95, 1, 23714⟩, ⟨0x2F96, 0x2F96, 1, 23728⟩, ⟨0x2F97, 0x2F97, 1, 23742⟩,
  ⟨0x2F98, 0x2F98, 1, 23776⟩, ⟨0x2F99, 0x2F99, 1, 23812⟩, ⟨0x2F9A, 0x2F9A, 1, 24010⟩,
  ⟨0x2F9B, 0x2F9B, 1, 24021⟩, ⟨0x2F9C, 0x2F9C, 1, 24087⟩, ⟨0x2F9D, 0x2F9D, 1, 24334⟩,
  ⟨0x2F9E, 0x2F9E, 1, 24364⟩, ⟨0x2F9F, 0x2F9F, 1, 24572⟩, ⟨0x2FA0, 0x2FA0, 1, 24592⟩,
  ⟨0x2FA1, 0x2FA1, 1, 24596⟩, ⟨0x2FA2, 0x2FA2, 1, 24815⟩, ⟨0x2FA3, 0x2FA3, 1, 24998⟩,
  ⟨0x2FA4, 0x2FA4, 1, 25122⟩, ⟨0x2FA5, 0x2FA5, 1, 25127⟩, ⟨0x2FA6, 0x2FA6, 1, 25131⟩,
  ⟨0x2FA7, 0x2FA7, 1, 26064⟩, ⟨0x2FA8, 0x2FA8, 1, 26072⟩, ⟨0x2FA9, 0x2FA9, 1, 26227⟩,
  ⟨0x2FAA, 0x2FAA, 1, 26380⟩, ⟨0x2FAB, 0x2FAB, 1, 26382⟩, ⟨0x2FAC, 0x2FAC, 1, 26428⟩,
  ⟨0x2FAD, 0x2FAD, 1, 26532⟩, ⟨0x2FAE, 0x2FAE, 1, 26544⟩, ⟨0x2FAF, 0x2FAF, 1, 26547⟩,
  ⟨0x2FB0, 0x2FB0, 1, 26553⟩, ⟨0x2FB1, 0x2FB1, 1, 26650⟩, ⟨0x2FB2, 0x2FB2, 1, 26683⟩,
  ⟨0x2FB3, 0x2FB3, 1, 26688⟩, ⟨0x2FB4, 0x2FB4, 1, 26701⟩, ⟨0x2FB5, 0x2FB5, 1, 26867⟩,
  ⟨0x2FB6, 0x2FB6, 1, 26917⟩, ⟨0x2FB7, 0x2FB7, 1, 26920⟩, ⟨0x2FB8, 0x2FB8, 1, 27102⟩,
  ⟨0x2FB9, 0x2FB9, 1, 27104⟩, ⟨0x2FBA, 0x2FBA, 1, 27122⟩, ⟨0x2FBB, 0x2FBB, 1, 27373⟩,
  ⟨0x2FBC, 0x2FBC, 1, 27420⟩, ⟨0x2FBD, 0x2FBD, 1, 27426⟩, ⟨0x2FBE, 0x2FBE, 1, 27495⟩,
  ⟨0x2FBF, 0x2FBF, 1, 27504⟩, ⟨0x2FC0, 0x2FC0, 1, 27506⟩, ⟨0x2FC1, 0x2FC1, 1, 27515⟩,
  ⟨0x2FC2, 0x2FC2, 1, 27544⟩, ⟨0x2FC3, 0x2FC3, 1, 27938⟩, ⟨0x2FC4, 0x2FC4, 1, 28337⟩,
  ⟨0x2FC5, 0x2FC5, 1, 28346⟩, ⟨0x2FC6, 0x2FC6, 1, 28383⟩, ⟨0x2FC7, 0x2FC7, 1, 28404⟩,
  ⟨0x2FC8, 0x2FC8, 1, 28411⟩, ⟨0x2FC9, 0x2FC9, 1, 28420⟩, ⟨0x2FCA, 0x2FCA, 1, 28423⟩,
  ⟨0x2FCB, 0x2FCB, 1, 28462⟩, ⟨0x2FCC, 0x2FCC, 1, 28465⟩, ⟨0x2FCD, 0x2FCD, 1, 28481⟩,
  ⟨0x2FCE, 0x2FCE, 1, 28485⟩, ⟨0x2FCF, 0x2FCF, 1, 28497⟩, ⟨0x2FD0, 0x2FD0, 1, 28523⟩,
  ⟨0x2FD1, 0x2FD1, 1, 28537⟩, ⟨0x2FD2, 0x2FD2, 1, 28544⟩, ⟨0x2FD3, 0x2FD3, 1, 28602⟩,
  ⟨0x2FD4, 0x2FD4, 1, 28616⟩, ⟨0x2FD5, 0x2FD5, 1, 28619⟩, ⟨0x3000, 0x3000, 1, -12256⟩,
  ⟨0x3002, 0x3002, 1, -12244⟩, ⟨0x3036, 0x3036, 1, -36⟩, ⟨0x3038, 0x3038, 1, 8969⟩,
  ⟨0x3039, 0x303A, 1, 8971⟩, ⟨0x3131, 0x3132, 1, -8241⟩, ⟨0x3133, 0x3133, 1, -8073⟩,
  ⟨0x3134, 0x3134, 1, -8242⟩, ⟨0x3135, 0x3136, 1, -8073⟩, ⟨0x3137, 0x3139, 1, -8244⟩,
  ⟨0x313A, 0x313F, 1, -8074⟩, ⟨0x3140, 0x3140, 1, -8230⟩, ⟨0x3141, 0x3143, 1, -8251⟩,
  ⟨0x3144, 0x3144, 1, -8227⟩, ⟨0x3145, 0x314E, 1, -8252⟩, ⟨0x314F, 0x3163, 1, -8174⟩,
  ⟨0x3165, 0x3166, 1, -8273⟩, ⟨0x3167, 0x3168, 1, -8096⟩, ⟨0x3169, 0x3169, 1, -8093⟩,
  ⟨0x316A, 0x316A, 1, -8092⟩, ⟨0x316B, 0x316B, 1, -8088⟩, ⟨0x316C, 0x316C, 1, -8085⟩,
  ⟨0x316D, 0x316D, 1, -8084⟩, ⟨0x316E, 0x316E, 1, -8274⟩, ⟨0x316F, 0x316F, 1, -8082⟩,
  ⟨0x3170, 0x3170, 1, -8081⟩, ⟨0x3171, 0x3172, 1, -8276⟩, ⟨0x3173, 0x3173, 1, -8275⟩,
  ⟨0x3174, 0x3175, 1, -8274⟩, ⟨0x3176, 0x3176, 1, -8271⟩, ⟨0x3177, 0x3177, 1, -8270⟩,
  ⟨0x3178, 0x317C, 1, -8269⟩, ⟨0x317D, 0x317D, 1, -8267⟩, ⟨0x317E, 0x317E, 1, -8264⟩,
  ⟨0x317F, 0x317F, 1, -8255⟩, ⟨0x3180, 0x3180, 1, -8249⟩, ⟨0x3181, 0x3181, 1, -8245⟩,
  ⟨0x3182, 0x3183, 1, -8081⟩, ⟨0x3184, 0x3186, 1, -8237⟩, ⟨0x3187, 0x3188, 1, -8195⟩,
  ⟨0x3189, 0x3189, 1, -8193⟩, ⟨0x318A, 0x318B, 1, -8185⟩, ⟨0x318C, 0x318C, 1, -8184⟩,
  ⟨0x318D, 0x318D, 1, -8175⟩, ⟨0x318E, 0x318E, 1, -8173⟩, ⟨0x3192, 0x3192, 1, 7278⟩,
  ⟨0x3193, 0x3193, 1, 7417⟩, ⟨0x3194, 0x3194, 1, 7285⟩, ⟨0x3195, 0x3195, 1, 9542⟩,
  ⟨0x3196, 0x3196, 1, 7284⟩, ⟨0x3197, 0x3197, 1, 7318⟩, ⟨0x3198, 0x3198, 1, 7283⟩,
  ⟨0x3199, 0x3199, 1, 17305⟩, ⟨0x319A, 0x319A, 1, 7359⟩, ⟨0x319B, 0x319B, 1, 7294⟩,
  ⟨0x319C, 0x319C, 1, 7269⟩, ⟨0x319D, 0x319D, 1, 10124⟩, ⟨0x319E, 0x319E, 1, 9618⟩,
  ⟨0x319F, 0x319F, 1, 7451⟩, ⟨0x3244, 0x3244, 1, 8971⟩, ⟨0x3245, 0x3245, 1, 11319⟩,
  ⟨0x3246, 0x3246, 1, 13121⟩, ⟨0x3247, 0x3247, 1, 18760⟩, ⟨0x3260, 0x3260, 1, -8544⟩,
  ⟨0x3261, 0x3262, 1, -8543⟩, ⟨0x3263, 0x3265, 1, -8542⟩, ⟨0x3266, 0x3266, 1, -8541⟩,
  ⟨0x3267, 0x3268, 1, -8540⟩, ⟨0x3269, 0x326D, 1, -8539⟩, ⟨0x326E, 0x326E, 1, 31122⟩,
  ⟨0x326F, 0x326F, 1, 32297⟩, ⟨0x3270, 0x3270, 1, 32884⟩, ⟨0x3271, 0x3271, 1, 34059⟩,
  ⟨0x3272, 0x3272, 1, 34646⟩, ⟨0x3273, 0x3273, 1, 35233⟩, ⟨0x3274, 0x3274, 1, 36408⟩,
  ⟨0x3275, 0x3275, 1, 37583⟩, ⟨0x3276, 0x3276, 1, 38170⟩, ⟨0x3277, 0x3277, 1, 39345⟩,
  ⟨0x3278, 0x3278, 1, 39932⟩, ⟨0x3279, 0x3279, 1, 40519⟩, ⟨0x327A, 0x327A, 1, 41106⟩,
  ⟨0x327B, 0x327B, 1, 41693⟩, ⟨0x327E, 0x327E, 1, 37938⟩, ⟨0x3280, 0x3280, 1, 7040⟩,
  ⟨0x3281, 0x3281, 1, 7179⟩, ⟨0x3282, 0x3282, 1, 7047⟩, ⟨0x3283, 0x3283, 1, 9304⟩,
  ⟨0x3284, 0x3284, 1, 7184⟩, ⟨0x3285, 0x3285, 1, 7912⟩, ⟨0x3286, 0x3286, 1, 7037⟩,
  ⟨0x3287, 0x3287, 1, 7908⟩, ⟨0x3288, 0x3288, 1, 7125⟩, ⟨0x3289, 0x3289, 1, 8376⟩,
  ⟨0x328A, 0x328A, 1, 13438⟩, ⟨0x328B, 0x328B, 1, 15840⟩, ⟨0x328C, 0x328C, 1, 14760⟩,
  ⟨0x328D, 0x328D, 1, 13467⟩, ⟨0x328E, 0x328E, 1, 24387⟩, ⟨0x328F, 0x328F, 1, 9360⟩,
  ⟨0x3290, 0x3290, 1, 13141⟩, ⟨0x3291, 0x3291, 1, 13721⟩, ⟨0x3292, 0x3292, 1, 13431⟩,
  ⟨0x3293, 0x3293, 1, 18091⟩, ⟨0x3294, 0x3294, 1, 8569⟩, ⟨0x3295, 0x3295, 1, 16356⟩,
  ⟨0x3296, 0x3296, 1, 23051⟩, ⟨0x3297, 0x3297, 1, 18118⟩, ⟨0x3298, 0x3298, 1, 8220⟩,
  ⟨0x3299, 0x3299, 1, 18239⟩, ⟨0x329A, 0x329A, 1, 17053⟩, ⟨0x329B, 0x329B, 1, 9944⟩,
  ⟨0x329C, 0x329C, 1, 24013⟩, ⟨0x329D, 0x329D, 1, 7821⟩, ⟨0x329E, 0x329E, 1, 8402⟩,
  ⟨0x329F, 0x329F, 1, 14921⟩, ⟨0x32A0, 0x32A0, 1, 25957⟩, ⟨0x32A1, 0x32A1, 1, 7280⟩,
  ⟨0x32A2, 0x32A2, 1, 7927⟩, ⟨0x32A3, 0x32A3, 1, 14528⟩, ⟨0x32A4, 0x32A4, 1, 7014⟩,
  ⟨0x32A5, 0x32A5, 1, 7048⟩, ⟨0x32A6, 0x32A6, 1, 7013⟩, ⟨0x32A7, 0x32A7, 1, 11071⟩,
  ⟨0x32A8, 0x32A8, 1, 8523⟩, ⟨0x32A9, 0x32A9, 1, 8338⟩, ⟨0x32AA, 0x32AA, 1, 10477⟩,
  ⟨0x32AB, 0x32AB, 1, 10427⟩, ⟨0x32AC, 0x32AC, 1, 17463⟩, ⟨0x32AD, 0x32AD, 1, 7252⟩,
  ⟨0x32AE, 0x32AE, 1, 23065⟩, ⟨0x32AF, 0x32AF, 1, 8357⟩]

def mappedRunsSecond : List Run := [
  ⟨0x32B0, 0x32B0, 1, 9836⟩, ⟨0x32D0, 0x32D0, 1, -558⟩, ⟨0x32D1, 0x32D1, 1, -557⟩,
  ⟨0x32D2, 0x32D2, 1, -556⟩, ⟨0x32D3, 0x32D3, 1, -555⟩, ⟨0x32D4, 0x32D5, 1, -554⟩,
  ⟨0x32D6, 0x32D6, 1, -553⟩, ⟨0x32D7, 0x32D7, 1, -552⟩, ⟨0x32D8, 0x32D8, 1, -551⟩,
  ⟨0x32D9, 0x32D9, 1, -550⟩, ⟨0x32DA, 0x32DA, 1, -549⟩, ⟨0x32DB, 0x32DB, 1, -548⟩,
  ⟨0x32DC, 0x32DC, 1, -547⟩, ⟨0x32DD, 0x32DD, 1, -546⟩, ⟨0x32DE, 0x32DE, 1, -545⟩,
  ⟨0x32DF, 0x32DF, 1, -544⟩, ⟨0x32E0, 0x32E0, 1, -543⟩, ⟨0x32E1, 0x32E1, 1, -541⟩,
  ⟨0x32E2, 0x32E2, 1, -540⟩, ⟨0x32E3, 0x32E3, 1, -539⟩, ⟨0x32E4, 0x32E9, 1, -538⟩,
  ⟨0x32EA, 0x32EA, 1, -536⟩, ⟨0x32EB, 0x32EB, 1, -534⟩, ⟨0x32EC, 0x32EC, 1, -532⟩,
  ⟨0x32ED, 0x32ED, 1, -530⟩, ⟨0x32EE, 0x32F2, 1, -528⟩, ⟨0x32F3, 0x32F3, 1, -527⟩,
  ⟨0x32F4, 0x32F4, 1, -526⟩, ⟨0x32F5, 0x32FA, 1, -525⟩, ⟨0x32FB, 0x32FE, 1, -524⟩,
  ⟨0xA640, 0xA66C, 2, 1⟩, ⟨0xA680, 0xA69A, 2, 1⟩, ⟨0xA69C, 0xA69C, 1, -41554⟩,
  ⟨0xA69D, 0xA69D, 1, -41553⟩, ⟨0xA722, 0xA72E, 2, 1⟩, ⟨0xA732, 0xA76E, 2, 1⟩,
  ⟨0xA770, 0xA770, 1, -1⟩, ⟨0xA779, 0xA77B, 2, 1⟩, ⟨0xA77D, 0xA77D, 1, -35332⟩,
  ⟨0xA77E, 0xA786, 2, 1⟩, ⟨0xA78B, 0xA78B, 1, 1⟩, ⟨0xA78D, 0xA78D, 1, -42280⟩,
  ⟨0xA790, 0xA792, 2, 1⟩, ⟨0xA796, 0xA7A8, 2, 1⟩, ⟨0xA7AA, 0xA7AA, 1, -42308⟩,
  ⟨0xA7AB, 0xA7AB, 1, -42319⟩, ⟨0xA7AC, 0xA7AC, 1, -42315⟩, ⟨0xA7AD, 0xA7AD, 1, -42305⟩,
  ⟨0xA7AE, 0xA7AE, 1, -42308⟩, ⟨0xA7B0, 0xA7B0, 1, -42258⟩, ⟨0xA7B1, 0xA7B1, 1, -42282⟩,
  ⟨0xA7B2, 0xA7B2, 1, -42261⟩, ⟨0xA7B3, 0xA7B3, 1, 928⟩, ⟨0xA7B4, 0xA7C2, 2, 1⟩,
  ⟨0xA7C4, 0xA7C4, 1, -48⟩, ⟨0xA7C5, 0xA7C5, 1, -42307⟩, ⟨0xA7C6, 0xA7C6, 1, -35384⟩,
  ⟨0xA7C7, 0xA7C9, 2, 1⟩, ⟨0xA7CB, 0xA7CB, 1, -42343⟩, ⟨0xA7CC, 0xA7DA, 2, 1⟩,
  ⟨0xA7DC, 0xA7DC, 1, -42561⟩, ⟨0xA7F1, 0xA7F1, 1, -42878⟩, ⟨0xA7F2, 0xA7F2, 1, -42895⟩,
  ⟨0xA7F3, 0xA7F3, 1, -42893⟩, ⟨0xA7F4, 0xA7F4, 1, -42883⟩, ⟨0xA7F5, 0xA7F5, 1, 1⟩,
  ⟨0xA7F8, 0xA7F8, 1, -42705⟩, ⟨0xA7F9, 0xA7F9, 1, -42662⟩, ⟨0xAB5C, 0xAB5C, 1, -1077⟩,
  ⟨0xAB5D, 0xAB5D, 1, -38⟩, ⟨0xAB5E, 0xAB5E, 1, -43251⟩, ⟨0xAB5F, 0xAB5F, 1, -13⟩,
  ⟨0xAB69, 0xAB69, 1, -43228⟩, ⟨0xAB70, 0xABBF, 1, -38864⟩, ⟨0xF900, 0xF900, 1, -27832⟩,
  ⟨0xF901, 0xF901, 1, -37389⟩, ⟨0xF902, 0xF902, 1, -27192⟩, ⟨0xF903, 0xF903, 1, -27707⟩,
  ⟨0xF904, 0xF904, 1, -35379⟩, ⟨0xF905, 0xF905, 1, -43731⟩, ⟨0xF906, 0xF906, 1, -42273⟩,
  ⟨0xF907, 0xF907, 1, -22891⟩, ⟨0xF908, 0xF908, 1, -22892⟩, ⟨0xF909, 0xF909, 1, -40888⟩,
  ⟨0xF90A, 0xF90A, 1, -26425⟩, ⟨0xF90B, 0xF90B, 1, -41860⟩, ⟨0xF90C, 0xF90C, 1, -40900⟩,
  ⟨0xF90D, 0xF90D, 1, -38679⟩, ⟨0xF90E, 0xF90E, 1, -33445⟩, ⟨0xF90F, 0xF90F, 1, -31114⟩,
  ⟨0xF910, 0xF910, 1, -29393⟩, ⟨0xF911, 0xF911, 1, -29015⟩, ⟨0xF912, 0xF912, 1, -28698⟩,
  ⟨0xF913, 0xF913, 1, -26756⟩, ⟨0xF914, 0xF914, 1, -36626⟩, ⟨0xF915, 0xF915, 1, -35834⟩,
  ⟨0xF916, 0xF916, 1, -34877⟩, ⟨0xF917, 0xF917, 1, -34105⟩, ⟨0xF918, 0xF918, 1, -29915⟩,
  ⟨0xF919, 0xF919, 1, -26543⟩, ⟨0xF91A, 0xF91A, 1, -24361⟩, ⟨0xF91B, 0xF91B, 1, -43673⟩,
  ⟨0xF91C, 0xF91C, 1, -42407⟩, ⟨0xF91D, 0xF91D, 1, -36377⟩, ⟨0xF91E, 0xF91E, 1, -34563⟩,
  ⟨0xF91F, 0xF91F, 1, -29426⟩, ⟨0xF920, 0xF920, 1, -23298⟩, ⟨0xF921, 0xF921, 1, -39889⟩,
  ⟨0xF922, 0xF922, 1, -35127⟩, ⟨0xF923, 0xF923, 1, -29526⟩, ⟨0xF924, 0xF924, 1, -28608⟩,
  ⟨0xF925, 0xF925, 1, -38492⟩, ⟨0xF926, 0xF926, 1, -30542⟩, ⟨0xF927, 0xF927, 1, -28936⟩,
  ⟨0xF928, 0xF928, 1, -39518⟩, ⟨0xF929, 0xF929, 1, -37394⟩, ⟨0xF92A, 0xF92A, 1, -35776⟩,
  ⟨0xF92B, 0xF92B, 1, -34351⟩, ⟨0xF92C, 0xF92C, 1, -26718⟩, ⟨0xF92D, 0xF92D, 1, -43431⟩,
  ⟨0xF92E, 0xF92E, 1, -42871⟩, ⟨0xF92F, 0xF92F, 1, -42577⟩, ⟨0xF930, 0xF930, 1, -37996⟩,
  ⟨0xF931, 0xF931, 1, -36446⟩, ⟨0xF932, 0xF932, 1, -34594⟩, ⟨0xF933, 0xF933, 1, -33356⟩,
  ⟨0xF934, 0xF934, 1, -31027⟩, ⟨0xF935, 0xF935, 1, -29487⟩, ⟨0xF936, 0xF936, 1, -29402⟩,
  ⟨0xF937, 0xF937, 1, -27464⟩, ⟨0xF938, 0xF938, 1, -25094⟩, ⟨0xF939, 0xF939, 1, -24010⟩,
  ⟨0xF93A, 0xF93A, 1, -23360⟩, ⟨0xF93B, 0xF93B, 1, -32943⟩, ⟨0xF93C, 0xF93C, 1, -32701⟩,
  ⟨0xF93D, 0xF93D, 1, -31645⟩, ⟨0xF93E, 0xF93E, 1, -30069⟩, ⟨0xF93F, 0xF93F, 1, -26171⟩,
  ⟨0xF940, 0xF940, 1, -23233⟩, ⟨0xF941, 0xF941, 1, -28267⟩, ⟨0xF942, 0xF942, 1, -41059⟩,
  ⟨0xF943, 0xF943, 1, -39487⟩, ⟨0xF944, 0xF944, 1, -31972⟩, ⟨0xF945, 0xF945, 1, -30919⟩,
  ⟨0xF946, 0xF946, 1, -34532⟩, ⟨0xF947, 0xF947, 1, -32893⟩, ⟨0xF948, 0xF948, 1, -27782⟩,
  ⟨0xF949, 0xF949, 1, -25170⟩, ⟨0xF94A, 0xF94A, 1, -41074⟩, ⟨0xF94B, 0xF94B, 1, -40169⟩,
  ⟨0xF94C, 0xF94C, 1, -36665⟩, ⟨0xF94D, 0xF94D, 1, -35699⟩, ⟨0xF94E, 0xF94E, 1, -35391⟩,
  ⟨0xF94F, 0xF94F, 1, -31776⟩, ⟨0xF950, 0xF950, 1, -31513⟩, ⟨0xF951, 0xF951, 1, -25350⟩,
  ⟨0xF952, 0xF952, 1, -42624⟩, ⟨0xF953, 0xF953, 1, -30920⟩, ⟨0xF954, 0xF954, 1, -42872⟩,
  ⟨0xF955, 0xF955, 1, -42889⟩, ⟨0xF956, 0xF956, 1, -32570⟩, ⟨0xF957, 0xF957, 1, -31641⟩,
  ⟨0xF958, 0xF958, 1, -30055⟩, ⟨0xF959, 0xF959, 1, -25316⟩, ⟨0xF95A, 0xF95A, 1, -28122⟩,
  ⟨0xF95B, 0xF95B, 1, -38540⟩, ⟨0xF95C, 0xF95C, 1, -36698⟩, ⟨0xF95D, 0xF95D, 1, -28255⟩,
  ⟨0xF95E, 0xF95E, 1, -43813⟩, ⟨0xF95F, 0xF95F, 1, -40312⟩, ⟨0xF960, 0xF960, 1, -39246⟩,
  ⟨0xF961, 0xF961, 1, -34266⟩, ⟨0xF962, 0xF962, 1, -33778⟩, ⟨0xF963, 0xF963, 1, -42572⟩,
  ⟨0xF964, 0xF964, 1, -32873⟩, ⟨0xF965, 0xF965, 1, -43430⟩, ⟨0xF966, 0xF966, 1, -39357⟩,
  ⟨0xF967, 0xF967, 1, -43866⟩, ⟨0xF968, 0xF968, 1, -35996⟩, ⟨0xF969, 0xF969, 1, -37873⟩,
  ⟨0xF96A, 0xF96A, 1, -31816⟩, ⟨0xF96B, 0xF96B, 1, -42408⟩, ⟨0xF96C, 0xF96C, 1, -41230⟩,
  ⟨0xF96D, 0xF96D, 1, -33388⟩, ⟨0xF96E, 0xF96E, 1, -29989⟩, ⟨0xF96F, 0xF96F, 1, -28357⟩,
  ⟨0xF970, 0xF970, 1, -36278⟩, ⟨0xF971, 0xF971, 1, -27073⟩, ⟨0xF972, 0xF972, 1, -36074⟩,
  ⟨0xF973, 0xF973, 1, -38517⟩, ⟨0xF974, 0xF974, 1, -30351⟩, ⟨0xF975, 0xF975, 1, -38357⟩,
  ⟨0xF976, 0xF976, 1, -33809⟩, ⟨0xF977, 0xF977, 1, -43721⟩, ⟨0xF978, 0xF978, 1, -43023⟩,
  ⟨0xF979, 0xF979, 1, -42928⟩, ⟨0xF97A, 0xF97A, 1, -37113⟩, ⟨0xF97B, 0xF97B, 1, -31892⟩,
  ⟨0xF97C, 0xF97C, 1, -30477⟩, ⟨0xF97D, 0xF97D, 1, -28331⟩, ⟨0xF97E, 0xF97E, 1, -26543⟩,
  ⟨0xF97F, 0xF97F, 1, -42634⟩, ⟨0xF980, 0xF980, 1, -42302⟩, ⟨0xF981, 0xF981, 1, -40974⟩,
  ⟨0xF982, 0xF982, 1, -39574⟩, ⟨0xF983, 0xF983, 1, -37822⟩, ⟨0xF984, 0xF984, 1, -35206⟩,
  ⟨0xF985, 0xF985, 1, -32859⟩, ⟨0xF986, 0xF986, 1, -25561⟩, ⟨0xF987, 0xF987, 1, -24349⟩,
  ⟨0xF988, 0xF988, 1, -23281⟩, ⟨0xF989, 0xF989, 1, -23227⟩, ⟨0xF98A, 0xF98A, 1, -42735⟩,
  ⟨0xF98B, 0xF98B, 1, -37573⟩, ⟨0xF98C, 0xF98C, 1, -36373⟩, ⟨0xF98D, 0xF98D, 1, -27179⟩,
  ⟨0xF98E, 0xF98E, 1, -39706⟩, ⟨0xF98F, 0xF98F, 1, -38911⟩, ⟨0xF990, 0xF990, 1, -38800⟩,
  ⟨0xF991, 0xF991, 1, -38135⟩, ⟨0xF992, 0xF992, 1, -35439⟩, ⟨0xF993, 0xF993, 1, -34890⟩,
  ⟨0xF994, 0xF994, 1, -34059⟩, ⟨0xF995, 0xF995, 1, -32715⟩, ⟨0xF996, 0xF996, 1, -31650⟩,
  ⟨0xF997, 0xF997, 1, -31016⟩, ⟨0xF998, 0xF998, 1, -27250⟩, ⟨0xF999, 0xF999, 1, -29867⟩,
  ⟨0xF99A, 0xF99A, 1, -26999⟩, ⟨0xF99B, 0xF99B, 1, -26193⟩, ⟨0xF99C, 0xF99C, 1, -42885⟩,
  ⟨0xF99D, 0xF99D, 1, -42746⟩, ⟨0xF99E, 0xF99E, 1, -42209⟩, ⟨0xF99F, 0xF99F, 1, -35031⟩,
  ⟨0xF9A0, 0xF9A0, 1, -28894⟩, ⟨0xF9A1, 0xF9A1, 1, -28407⟩, ⟨0xF9A2, 0xF9A2, 1, -39641⟩,
  ⟨0xF9A3, 0xF9A3, 1, -39342⟩, ⟨0xF9A4, 0xF9A4, 1, -38441⟩, ⟨0xF9A5, 0xF9A5, 1, -36343⟩,
  ⟨0xF9A6, 0xF9A6, 1, -32104⟩, ⟨0xF9A7, 0xF9A7, 1, -34354⟩, ⟨0xF9A8, 0xF9A8, 1, -43716⟩,
  ⟨0xF9A9, 0xF9A9, 1, -41648⟩, ⟨0xF9AA, 0xF9AA, 1, -40387⟩, ⟨0xF9AB, 0xF9AB, 1, -39921⟩,
  ⟨0xF9AC, 0xF9AC, 1, -39312⟩, ⟨0xF9AD, 0xF9AD, 1, -34299⟩, ⟨0xF9AE, 0xF9AE, 1, -34117⟩,
  ⟨0xF9AF, 0xF9AF, 1, -31253⟩, ⟨0xF9B0, 0xF9B0, 1, -31082⟩, ⟨0xF9B1, 0xF9B1, 1, -26493⟩,
  ⟨0xF9B2, 0xF9B2, 1, -25276⟩, ⟨0xF9B3, 0xF9B3, 1, -25195⟩, ⟨0xF9B4, 0xF9B4, 1, -24988⟩,
  ⟨0xF9B5, 0xF9B5, 1, -43562⟩, ⟨0xF9B6, 0xF9B6, 1, -32776⟩, ⟨0xF9B7, 0xF9B7, 1, -26627⟩,
  ⟨0xF9B8, 0xF9B8, 1, -25344⟩, ⟨0xF9B9, 0xF9B9, 1, -39128⟩, ⟨0xF9BA, 0xF9BA, 1, -43828⟩,
  ⟨0xF9BB, 0xF9BB, 1, -43233⟩, ⟨0xF9BC, 0xF9BC, 1, -40398⟩, ⟨0xF9BD, 0xF9BD, 1, -40318⟩,
  ⟨0xF9BE, 0xF9BE, 1, -37925⟩, ⟨0xF9BF, 0xF9BF, 1, -36797⟩, ⟨0xF9C0, 0xF9C0, 1, -34802⟩,
  ⟨0xF9C1, 0xF9C1, 1, -33663⟩, ⟨0xF9C2, 0xF9C2, 1, -29894⟩, ⟨0xF9C3, 0xF9C3, 1, -26951⟩,
  ⟨0xF9C4, 0xF9C4, 1, -23095⟩, ⟨0xF9C5, 0xF9C5, 1, -37693⟩, ⟨0xF9C6, 0xF9C6, 1, -25496⟩,
  ⟨0xF9C7, 0xF9C7, 1, -42814⟩, ⟨0xF9C8, 0xF9C8, 1, -37453⟩, ⟨0xF9C9, 0xF9C9, 1, -37334⟩,
  ⟨0xF9CA, 0xF9CA, 1, -35977⟩, ⟨0xF9CB, 0xF9CB, 1, -35631⟩, ⟨0xF9CC, 0xF9CC, 1, -34243⟩,
  ⟨0xF9CD, 0xF9CD, 1, -33908⟩, ⟨0xF9CE, 0xF9CE, 1, -33123⟩, ⟨0xF9CF, 0xF9CF, 1, -31935⟩,
  ⟨0xF9D0, 0xF9D0, 1, -24946⟩, ⟨0xF9D1, 0xF9D1, 1, -43108⟩, ⟨0xF9D2, 0xF9D2, 1, -38820⟩,
  ⟨0xF9D3, 0xF9D3, 1, -25435⟩, ⟨0xF9D4, 0xF9D4, 1, -43433⟩, ⟨0xF9D5, 0xF9D5, 1, -40124⟩,
  ⟨0xF9D6, 0xF9D6, 1, -35820⟩, ⟨0xF9D7, 0xF9D7, 1, -27309⟩, ⟨0xF9D8, 0xF9D8, 1, -39501⟩,
  ⟨0xF9D9, 0xF9D9, 1, -39061⟩, ⟨0xF9DA, 0xF9DA, 1, -37315⟩, ⟨0xF9DB, 0xF9DB, 1, -34388⟩,
  ⟨0xF9DC, 0xF9DC, 1, -25430⟩, ⟨0xF9DD, 0xF9DD, 1, -42932⟩, ⟨0xF9DE, 0xF9DE, 1, -42447⟩,
  ⟨0xF9DF, 0xF9DF, 1, -40314⟩, ⟨0xF9E0, 0xF9E0, 1, -37837⟩, ⟨0xF9E1, 0xF9E1, 1, -37523⟩,
  ⟨0xF9E2, 0xF9E2, 1, -37178⟩, ⟨0xF9E3, 0xF9E3, 1, -36094⟩, ⟨0xF9E4, 0xF9E4, 1, -34270⟩,
  ⟨0xF9E5, 0xF9E5, 1, -33795⟩, ⟨0xF9E6, 0xF9E6, 1, -31341⟩, ⟨0xF9E7, 0xF9E7, 1, -28952⟩,
  ⟨0xF9E8, 0xF9E8, 1, -28935⟩, ⟨0xF9E9, 0xF9E9, 1, -26653⟩, ⟨0xF9EA, 0xF9EA, 1, -25352⟩,
  ⟨0xF9EB, 0xF9EB, 1, -42668⟩, ⟨0xF9EC, 0xF9EC, 1, -35634⟩, ⟨0xF9ED, 0xF9ED, 1, -42448⟩,
  ⟨0xF9EE, 0xF9EE, 1, -34846⟩, ⟨0xF9EF, 0xF9EF, 1, -34135⟩, ⟨0xF9F0, 0xF9F0, 1, -29686⟩,
  ⟨0xF9F1, 0xF9F1, 1, -25422⟩, ⟨0xF9F2, 0xF9F2, 1, -23963⟩, ⟨0xF9F3, 0xF9F3, 1, -23380⟩,
  ⟨0xF9F4, 0xF9F4, 1, -37469⟩, ⟨0xF9F5, 0xF9F5, 1, -35882⟩, ⟨0xF9F6, 0xF9F6, 1, -30734⟩,
  ⟨0xF9F7, 0xF9F7, 1, -32556⟩, ⟨0xF9F8, 0xF9F8, 1, -32472⟩, ⟨0xF9F9, 0xF9F9, 1, -32103⟩,
  ⟨0xF9FA, 0xF9FA, 1, -34618⟩, ⟨0xF9FB, 0xF9FB, 1, -35170⟩, ⟨0xF9FC, 0xF9FC, 1, -28324⟩,
  ⟨0xF9FD, 0xF9FD, 1, -43837⟩, ⟨0xF9FE, 0xF9FE, 1, -30408⟩, ⟨0xF9FF, 0xF9FF, 1, -42949⟩,
  ⟨0xFA00, 0xFA00, 1, -43001⟩, ⟨0xFA01, 0xFA01, 1, -39771⟩, ⟨0xFA02, 0xFA02, 1, -38703⟩,
  ⟨0xFA03, 0xFA03, 1, -32045⟩, ⟨0xFA04, 0xFA04, 1, -40575⟩, ⟨0xFA05, 0xFA05, 1, -36071⟩,
  ⟨0xFA06, 0xFA06, 1, -37714⟩, ⟨0xFA07, 0xFA07, 1, -27340⟩, ⟨0xFA08, 0xFA08, 1, -29116⟩,
  ⟨0xFA09, 0xFA09, 1, -25532⟩, ⟨0xFA0A, 0xFA0A, 1, -28799⟩, ⟨0xFA0B, 0xFA0B, 1, -39736⟩,
  ⟨0xFA0C, 0xFA0C, 1, -43212⟩, ⟨0xFA0D, 0xFA0D, 1, -42061⟩, ⟨0xFA10, 0xFA10, 1, -41398⟩,
  ⟨0xFA12, 0xFA12, 1, -37790⟩, ⟨0xFA15, 0xFA15, 1, -43063⟩, ⟨0xFA16, 0xFA16, 1, -34540⟩,
  ⟨0xFA17, 0xFA17, 1, -33613⟩, ⟨0xFA18, 0xFA18, 1, -32988⟩, ⟨0xFA19, 0xFA19, 1, -32955⟩,
  ⟨0xFA1A, 0xFA1A, 1, -32949⟩, ⟨0xFA1B, 0xFA1B, 1, -32908⟩, ⟨0xFA1C, 0xFA1C, 1, -25286⟩,
  ⟨0xFA1D, 0xFA1D, 1, -32095⟩, ⟨0xFA1E, 0xFA1E, 1, -31329⟩, ⟨0xFA20, 0xFA20, 1, -29710⟩,
  ⟨0xFA22, 0xFA22, 1, -28458⟩, ⟨0xFA25, 0xFA25, 1, -27117⟩, ⟨0xFA26, 0xFA26, 1, -26921⟩,
  ⟨0xFA2A, 0xFA2A, 1, -24891⟩, ⟨0xFA2B, 0xFA2B, 1, -24879⟩, ⟨0xFA2C, 0xFA2C, 1, -24836⟩,
  ⟨0xFA2D, 0xFA2D, 1, -23673⟩, ⟨0xFA2E, 0xFA2E, 1, -26960⟩, ⟨0xFA2F, 0xFA2F, 1, -25464⟩,
  ⟨0xFA30, 0xFA30, 1, -43650⟩, ⟨0xFA31, 0xFA31, 1, -43338⟩, ⟨0xFA32, 0xFA32, 1, -43237⟩,
  ⟨0xFA33, 0xFA33, 1, -42858⟩, ⟨0xFA34, 0xFA34, 1, -42832⟩, ⟨0xFA35, 0xFA35, 1, -42724⟩,
  ⟨0xFA36, 0xFA36, 1, -42137⟩, ⟨0xFA37, 0xFA37, 1, -42033⟩, ⟨0xFA38, 0xFA38, 1, -41936⟩,
  ⟨0xFA39, 0xFA39, 1, -41465⟩, ⟨0xFA3A, 0xFA3A, 1, -41362⟩, ⟨0xFA3B, 0xFA3B, 1, -40407⟩,
  ⟨0xFA3C, 0xFA3C, 1, -40398⟩, ⟨0xFA3D, 0xFA3D, 1, -39337⟩, ⟨0xFA3E, 0xFA3E, 1, -39126⟩,
  ⟨0xFA3F, 0xFA3F, 1, -39089⟩, ⟨0xFA40, 0xFA40, 1, -38990⟩, ⟨0xFA41, 0xFA41, 1, -38130⟩,
  ⟨0xFA42, 0xFA42, 1, -37984⟩, ⟨0xFA43, 0xFA43, 1, -37810⟩, ⟨0xFA44, 0xFA44, 1, -37311⟩,
  ⟨0xFA45, 0xFA45, 1, -36046⟩, ⟨0xFA46, 0xFA46, 1, -35884⟩, ⟨0xFA47, 0xFA47, 1, -35621⟩,
  ⟨0xFA48, 0xFA48, 1, -35034⟩, ⟨0xFA49, 0xFA49, 1, -34846⟩, ⟨0xFA4A, 0xFA4A, 1, -34344⟩,
  ⟨0xFA4B, 0xFA4B, 1, -33210⟩, ⟨0xFA4C, 0xFA4C, 1, -33038⟩, ⟨0xFA4D, 0xFA4D, 1, -33028⟩,
  ⟨0xFA4E, 0xFA4E, 1, -33030⟩, ⟨0xFA4F, 0xFA4F, 1, -33023⟩, ⟨0xFA50, 0xFA50, 1, -33018⟩,
  ⟨0xFA51, 0xFA51, 1, -33012⟩, ⟨0xFA52, 0xFA53, 1, -32965⟩, ⟨0xFA54, 0xFA54, 1, -32788⟩,
  ⟨0xFA55, 0xFA55, 1, -32724⟩, ⟨0xFA56, 0xFA56, 1, -32406⟩, ⟨0xFA57, 0xFA57, 1, -31843⟩,
  ⟨0xFA58, 0xFA58, 1, -31823⟩, ⟨0xFA59, 0xFA59, 1, -31768⟩, ⟨0xFA5A, 0xFA5A, 1, -31464⟩,
  ⟨0xFA5B, 0xFA5B, 1, -31318⟩, ⟨0xFA5C, 0xFA5C, 1, -30831⟩, ⟨0xFA5D, 0xFA5D, 1, -30692⟩,
  ⟨0xFA5E, 0xFA5E, 1, -30693⟩, ⟨0xFA5F, 0xFA5F, 1, -30216⟩, ⟨0xFA60, 0xFA60, 1, -29008⟩,
  ⟨0xFA61, 0xFA61, 1, -28875⟩, ⟨0xFA62, 0xFA62, 1, -28513⟩, ⟨0xFA63, 0xFA63, 1, -28458⟩,
  ⟨0xFA64, 0xFA64, 1, -28049⟩, ⟨0xFA65, 0xFA65, 1, -27997⟩, ⟨0xFA66, 0xFA66, 1, -27312⟩,
  ⟨0xFA67, 0xFA67, 1, -27183⟩, ⟨0xFA68, 0xFA68, 1, -25477⟩, ⟨0xFA69, 0xFA69, 1, -25194⟩,
  ⟨0xFA6A, 0xFA6A, 1, -25135⟩, ⟨0xFA6B, 0xFA6B, 1, -39414⟩, ⟨0xFA6C, 0xFA6C, 1, 84098⟩,
  ⟨0xFA6D, 0xFA6D, 1, -30805⟩, ⟨0xFA70, 0xFA70, 1, -44106⟩, ⟨0xFA71, 0xFA71, 1, -43196⟩,
  ⟨0xFA72, 0xFA72, 1, -43274⟩, ⟨0xFA73, 0xFA73, 1, -43763⟩, ⟨0xFA74, 0xFA74, 1, -43311⟩,
  ⟨0xFA75, 0xFA75, 1, -43253⟩, ⟨0xFA76, 0xFA76, 1, -42927⟩, ⟨0xFA77, 0xFA77, 1, -42877⟩,
  ⟨0xFA78, 0xFA78, 1, -42203⟩, ⟨0xFA79, 0xFA79, 1, -42276⟩, ⟨0xFA7A, 0xFA7A, 1, -42209⟩,
  ⟨0xFA7B, 0xFA7B, 1, -42137⟩, ⟨0xFA7C, 0xFA7C, 1, -41506⟩, ⟨0xFA7D, 0xFA7D, 1, -41418⟩,
  ⟨0xFA7E, 0xFA7E, 1, -41274⟩, ⟨0xFA7F, 0xFA7F, 1, -41259⟩, ⟨0xFA80, 0xFA80, 1, -40990⟩,
  ⟨0xFA81, 0xFA81, 1, -40793⟩, ⟨0xFA82, 0xFA82, 1, -39856⟩, ⟨0xFA83, 0xFA83, 1, -39850⟩,
  ⟨0xFA84, 0xFA84, 1, -39707⟩, ⟨0xFA85, 0xFA85, 1, -39640⟩, ⟨0xFA86, 0xFA86, 1, -39342⟩,
  ⟨0xFA87, 0xFA87, 1, -39225⟩, ⟨0xFA88, 0xFA88, 1, -39296⟩, ⟨0xFA89, 0xFA89, 1, -39163⟩,
  ⟨0xFA8A, 0xFA8A, 1, -39210⟩, ⟨0xFA8B, 0xFA8B, 1, -39065⟩, ⟨0xFA8C, 0xFA8C, 1, -39000⟩,
  ⟨0xFA8D, 0xFA8D, 1, -38601⟩, ⟨0xFA8E, 0xFA8E, 1, -38514⟩, ⟨0xFA8F, 0xFA8F, 1, -38461⟩,
  ⟨0xFA90, 0xFA90, 1, -38202⟩, ⟨0xFA91, 0xFA91, 1, -37917⟩, ⟨0xFA92, 0xFA92, 1, -37755⟩,
  ⟨0xFA93, 0xFA93, 1, -37752⟩, ⟨0xFA94, 0xFA94, 1, -37694⟩, ⟨0xFA95, 0xFA95, 1, -36636⟩,
  ⟨0xFA96, 0xFA96, 1, -36572⟩, ⟨0xFA97, 0xFA97, 1, -36182⟩, ⟨0xFA98, 0xFA98, 1, -35773⟩,
  ⟨0xFA99, 0xFA99, 1, -35790⟩, ⟨0xFA9A, 0xFA9A, 1, -35704⟩, ⟨0xFA9B, 0xFA9B, 1, -35453⟩,
  ⟨0xFA9C, 0xFA9C, 1, -35118⟩, ⟨0xFA9D, 0xFA9D, 1, -33526⟩, ⟨0xFA9E, 0xFA9E, 1, -34921⟩,
  ⟨0xFA9F, 0xFA9F, 1, -34800⟩, ⟨0xFAA0, 0xFAA0, 1, -34678⟩, ⟨0xFAA1, 0xFAA1, 1, -34352⟩,
  ⟨0xFAA2, 0xFAA2, 1, -34204⟩, ⟨0xFAA3, 0xFAA3, 1, -34152⟩, ⟨0xFAA4, 0xFAA4, 1, -33927⟩,
  ⟨0xFAA5, 0xFAA5, 1, -33926⟩, ⟨0xFAA6, 0xFAA6, 1, -33756⟩, ⟨0xFAA7, 0xFAA7, 1, -33740⟩,
  ⟨0xFAA8, 0xFAA8, 1, -33716⟩, ⟨0xFAA9, 0xFAA9, 1, -33631⟩, ⟨0xFAAA, 0xFAAA, 1, -33642⟩,
  ⟨0xFAAB, 0xFAAB, 1, -33247⟩, ⟨0xFAAC, 0xFAAC, 1, -32763⟩, ⟨0xFAAD, 0xFAAD, 1, -32493⟩,
  ⟨0xFAAE, 0xFAAE, 1, -32307⟩, ⟨0xFAAF, 0xFAAF, 1, -32084⟩, ⟨0xFAB0, 0xFAB0, 1, -31932⟩,
  ⟨0xFAB1, 0xFAB1, 1, -31603⟩, ⟨0xFAB2, 0xFAB2, 1, -31405⟩, ⟨0xFAB3, 0xFAB3, 1, -30561⟩,
  ⟨0xFAB4, 0xFAB4, 1, -30405⟩, ⟨0xFAB5, 0xFAB5, 1, -29500⟩, ⟨0xFAB6, 0xFAB6, 1, -29045⟩,
  ⟨0xFAB7, 0xFAB7, 1, -28977⟩, ⟨0xFAB8, 0xFAB8, 1, -28962⟩, ⟨0xFAB9, 0xFAB9, 1, -28666⟩,
  ⟨0xFABA, 0xFABA, 1, -28610⟩, ⟨0xFABB, 0xFABB, 1, -28656⟩, ⟨0xFABC, 0xFABC, 1, -28603⟩,
  ⟨0xFABD, 0xFABD, 1, -28607⟩, ⟨0xFABE, 0xFABE, 1, -28625⟩, ⟨0xFABF, 0xFABF, 1, -28550⟩,
  ⟨0xFAC0, 0xFAC0, 1, -28470⟩, ⟨0xFAC1, 0xFAC1, 1, -28089⟩, ⟨0xFAC2, 0xFAC2, 1, -27530⟩,
  ⟨0xFAC3, 0xFAC3, 1, -27217⟩, ⟨0xFAC4, 0xFAC4, 1, -26923⟩, ⟨0xFAC5, 0xFAC5, 1, -26703⟩,
  ⟨0xFAC6, 0xFAC6, 1, -25674⟩, ⟨0xFAC7, 0xFAC7, 1, -25572⟩, ⟨0xFAC8, 0xFAC8, 1, -25458⟩,
  ⟨0xFAC9, 0xFAC9, 1, -25326⟩, ⟨0xFACA, 0xFACA, 1, -25291⟩, ⟨0xFACB, 0xFACB, 1, -25280⟩,
  ⟨0xFACC, 0xFACC, 1, -25233⟩, ⟨0xFACD, 0xFACD, 1, -24507⟩, ⟨0xFACE, 0xFACE, 1, -23346⟩,
  ⟨0xFACF, 0xFACF, 1, 77179⟩, ⟨0xFAD0, 0xFAD0, 1, 77172⟩, ⟨0xFAD1, 0xFAD1, 1, 80132⟩,
  ⟨0xFAD2, 0xFAD2, 1, -48949⟩, ⟨0xFAD3, 0xFAD3, 1, -47803⟩, ⟨0xFAD4, 0xFAD4, 1, -47771⟩,
  ⟨0xFAD5, 0xFAD5, 1, 87924⟩, ⟨0xFAD6, 0xFAD6, 1, 90618⟩, ⟨0xFAD7, 0xFAD7, 1, 99324⟩,
  ⟨0xFAD8, 0xFAD8, 1, -23445⟩, ⟨0xFAD9, 0xFAD9, 1, -23371⟩, ⟨0xFB20, 0xFB20, 1, -62782⟩,
  ⟨0xFB21, 0xFB21, 1, -62801⟩, ⟨0xFB22, 0xFB23, 1, -62799⟩, ⟨0xFB24, 0xFB26, 1, -62793⟩,
  ⟨0xFB27, 0xFB27, 1, -62783⟩, ⟨0xFB28, 0xFB28, 1, -62782⟩, ⟨0xFB29, 0xFB29, 1, -64254⟩,
  ⟨0xFB50, 0xFB50, 1, -62687⟩, ⟨0xFB51, 0xFB51, 1, -62688⟩, ⟨0xFB52, 0xFB52, 1, -62679⟩,
  ⟨0xFB53, 0xFB53, 1, -62680⟩, ⟨0xFB54, 0xFB54, 1, -62681⟩, ⟨0xFB55, 0xFB55, 1, -62682⟩,
  ⟨0xFB56, 0xFB56, 1, -62680⟩, ⟨0xFB57, 0xFB57, 1, -62681⟩, ⟨0xFB58, 0xFB58, 1, -62682⟩,
  ⟨0xFB59, 0xFB59, 1, -62683⟩, ⟨0xFB5A, 0xFB5A, 1, -62682⟩, ⟨0xFB5B, 0xFB5B, 1, -62683⟩,
  ⟨0xFB5C, 0xFB5C, 1, -62684⟩, ⟨0xFB5D, 0xFB5D, 1, -62685⟩, ⟨0xFB5E, 0xFB5E, 1, -62692⟩,
  ⟨0xFB5F, 0xFB5F, 1, -62693⟩, ⟨0xFB60, 0xFB60, 1, -62694⟩, ⟨0xFB61, 0xFB61, 1, -62695⟩,
  ⟨0xFB62, 0xFB62, 1, -62691⟩, ⟨0xFB63, 0xFB63, 1, -62692⟩, ⟨0xFB64, 0xFB64, 1, -62693⟩,
  ⟨0xFB65, 0xFB65, 1, -62694⟩, ⟨0xFB66, 0xFB66, 1, -62701⟩, ⟨0xFB67, 0xFB67, 1, -62702⟩,
  ⟨0xFB68, 0xFB68, 1, -62703⟩, ⟨0xFB69, 0xFB69, 1, -62704⟩, ⟨0xFB6A, 0xFB6A, 1, -62662⟩,
  ⟨0xFB6B, 0xFB6B, 1, -62663⟩, ⟨0xFB6C, 0xFB6C, 1, -62664⟩, ⟨0xFB6D, 0xFB6D, 1, -62665⟩,
  ⟨0xFB6E, 0xFB6E, 1, -62664⟩, ⟨0xFB6F, 0xFB6F, 1, -62665⟩, ⟨0xFB70, 0xFB70, 1, -62666⟩,
  ⟨0xFB71, 0xFB71, 1, -62667⟩, ⟨0xFB72, 0xFB72, 1, -62702⟩, ⟨0xFB73, 0xFB73, 1, -62703⟩,
  ⟨0xFB74, 0xFB74, 1, -62704⟩, ⟨0xFB75, 0xFB75, 1, -62705⟩, ⟨0xFB76, 0xFB76, 1, -62707⟩,
  ⟨0xFB77, 0xFB77, 1, -62708⟩, ⟨0xFB78, 0xFB78, 1, -62709⟩, ⟨0xFB79, 0xFB79, 1, -62710⟩,
  ⟨0xFB7A, 0xFB7A, 1, -62708⟩, ⟨0xFB7B, 0xFB7B, 1, -62709⟩, ⟨0xFB7C, 0xFB7C, 1, -62710⟩,
  ⟨0xFB7D, 0xFB7E, 1, -62711⟩, ⟨0xFB7F, 0xFB7F, 1, -62712⟩, ⟨0xFB80, 0xFB80, 1, -62713⟩,
  ⟨0xFB81, 0xFB81, 1, -62714⟩, ⟨0xFB82, 0xFB82, 1, -62709⟩, ⟨0xFB83, 0xFB83, 1, -62710⟩,
  ⟨0xFB84, 0xFB84, 1, -62712⟩, ⟨0xFB85, 0xFB85, 1, -62713⟩, ⟨0xFB86, 0xFB86, 1, -62712⟩,
  ⟨0xFB87, 0xFB87, 1, -62713⟩, ⟨0xFB88, 0xFB88, 1, -62720⟩, ⟨0xFB89, 0xFB89, 1, -62721⟩,
  ⟨0xFB8A, 0xFB8A, 1, -62706⟩, ⟨0xFB8B, 0xFB8B, 1, -62707⟩, ⟨0xFB8C, 0xFB8C, 1, -62715⟩,
  ⟨0xFB8D, 0xFB8D, 1, -62716⟩, ⟨0xFB8E, 0xFB8E, 1, -62693⟩, ⟨0xFB8F, 0xFB8F, 1, -62694⟩,
  ⟨0xFB90, 0xFB90, 1, -62695⟩, ⟨0xFB91, 0xFB91, 1, -62696⟩, ⟨0xFB92, 0xFB92, 1, -62691⟩,
  ⟨0xFB93, 0xFB93, 1, -62692⟩, ⟨0xFB94, 0xFB94, 1, -62693⟩, ⟨0xFB95, 0xFB95, 1, -62694⟩,
  ⟨0xFB96, 0xFB96, 1, -62691⟩, ⟨0xFB97, 0xFB97, 1, -62692⟩, ⟨0xFB98, 0xFB98, 1, -62693⟩,
  ⟨0xFB99, 0xFB99, 1, -62694⟩, ⟨0xFB9A, 0xFB9A, 1, -62697⟩, ⟨0xFB9B, 0xFB9B, 1, -62698⟩,
  ⟨0xFB9C, 0xFB9C, 1, -62699⟩, ⟨0xFB9D, 0xFB9D, 1, -62700⟩, ⟨0xFB9E, 0xFB9E, 1, -62692⟩,
  ⟨0xFB9F, 0xFBA0, 1, -62693⟩, ⟨0xFBA1, 0xFBA1, 1, -62694⟩, ⟨0xFBA2, 0xFBA2, 1, -62695⟩,
  ⟨0xFBA3, 0xFBA3, 1, -62696⟩, ⟨0xFBA4, 0xFBA4, 1, -62692⟩, ⟨0xFBA5, 0xFBA6, 1, -62693⟩,
  ⟨0xFBA7, 0xFBA7, 1, -62694⟩, ⟨0xFBA8, 0xFBA8, 1, -62695⟩, ⟨0xFBA9, 0xFBA9, 1, -62696⟩,
  ⟨0xFBAA, 0xFBAA, 1, -62700⟩, ⟨0xFBAB, 0xFBAB, 1, -62701⟩, ⟨0xFBAC, 0xFBAC, 1, -62702⟩,
  ⟨0xFBAD, 0xFBAD, 1, -62703⟩, ⟨0xFBAE, 0xFBAE, 1, -62684⟩, ⟨0xFBAF, 0xFBB0, 1, -62685⟩,
  ⟨0xFBB1, 0xFBB1, 1, -62686⟩, ⟨0xFBD3, 0xFBD3, 1, -62758⟩, ⟨0xFBD4, 0xFBD4, 1, -62759⟩,
  ⟨0xFBD5, 0xFBD5, 1, -62760⟩, ⟨0xFBD6, 0xFBD6, 1, -62761⟩, ⟨0xFBD7, 0xFBD7, 1, -62736⟩,
  ⟨0xFBD8, 0xFBD8, 1, -62737⟩, ⟨0xFBD9, 0xFBD9, 1, -62739⟩, ⟨0xFBDA, 0xFBDA, 1, -62740⟩,
  ⟨0xFBDB, 0xFBDB, 1, -62739⟩, ⟨0xFBDC, 0xFBDC, 1, -62740⟩, ⟨0xFBDE, 0xFBDE, 1, -62739⟩,
  ⟨0xFBDF, 0xFBDF, 1, -62740⟩, ⟨0xFBE0, 0xFBE0, 1, -62747⟩, ⟨0xFBE1, 0xFBE1, 1, -62748⟩,
  ⟨0xFBE2, 0xFBE2, 1, -62745⟩, ⟨0xFBE3, 0xFBE3, 1, -62746⟩, ⟨0xFBE4, 0xFBE4, 1, -62740⟩,
  ⟨0xFBE5, 0xFBE5, 1, -62741⟩, ⟨0xFBE6, 0xFBE6, 1, -62742⟩, ⟨0xFBE7, 0xFBE7, 1, -62743⟩,
  ⟨0xFBE8, 0xFBE8, 1, -62879⟩, ⟨0xFBE9, 0xFBE9, 1, -62880⟩, ⟨0xFBFC, 0xFBFC, 1, -62768⟩,
  ⟨0xFBFD, 0xFBFD, 1, -62769⟩, ⟨0xFBFE, 0xFBFE, 1, -62770⟩, ⟨0xFBFF, 0xFBFF, 1, -62771⟩,
  ⟨0xFE10, 0xFE10, 1, -64996⟩, ⟨0xFE11, 0xFE11, 1, -52752⟩, ⟨0xFE13, 0xFE14, 1, -64985⟩,
  ⟨0xFE15, 0xFE15, 1, -65012⟩, ⟨0xFE16, 0xFE16, 1, -64983⟩, ⟨0xFE17, 0xFE18, 1, -52737⟩,
  ⟨0xFE31, 0xFE31, 1, -56861⟩, ⟨0xFE32, 0xFE32, 1, -56863⟩, ⟨0xFE33, 0xFE33, 1, -64980⟩,
  ⟨0xFE34, 0xFE34, 1, -64981⟩, ⟨0xFE35, 0xFE36, 1, -65037⟩, ⟨0xFE37, 0xFE37, 1, -64956⟩,
  ⟨0xFE38, 0xFE38, 1, -64955⟩, ⟨0xFE39, 0xFE3A, 1, -52773⟩, ⟨0xFE3B, 0xFE3C, 1, -52779⟩,
  ⟨0xFE3D, 0xFE3E, 1, -52787⟩, ⟨0xFE3F, 0xFE40, 1, -52791⟩, ⟨0xFE41, 0xFE44, 1, -52789⟩,
  ⟨0xFE47, 0xFE47, 1, -65004⟩, ⟨0xFE48, 0xFE48, 1, -65003⟩, ⟨0xFE4D, 0xFE4D, 1, -65006⟩,
  ⟨0xFE4E, 0xFE4E, 1, -65007⟩, ⟨0xFE4F, 0xFE4F, 1, -65008⟩, ⟨0xFE50, 0xFE50, 1, -65060⟩,
  ⟨0xFE51, 0xFE51, 1, -52816⟩, ⟨0xFE54, 0xFE54, 1, -65049⟩, ⟨0xFE55, 0xFE55, 1, -65051⟩,
  ⟨0xFE56, 0xFE56, 1, -65047⟩, ⟨0xFE57, 0xFE57, 1, -65078⟩, ⟨0xFE58, 0xFE58, 1, -56900⟩,
  ⟨0xFE59, 0xFE5A, 1, -65073⟩, ⟨0xFE5B, 0xFE5B, 1, -64992⟩, ⟨0xFE5C, 0xFE5C, 1, -64991⟩,
  ⟨0xFE5D, 0xFE5E, 1, -52809⟩, ⟨0xFE5F, 0xFE5F, 1, -65084⟩, ⟨0xFE60, 0xFE60, 1, -65082⟩,
  ⟨0xFE61, 0xFE62, 1, -65079⟩, ⟨0xFE63, 0xFE63, 1, -65078⟩, ⟨0xFE64, 0xFE64, 1, -65064⟩,
  ⟨0xFE65, 0xFE65, 1, -65063⟩]

def mappedRunsThird : List Run := [
  ⟨0xFE66, 0xFE66, 1, -65065⟩, ⟨0xFE68, 0xFE68, 1, -65036⟩, ⟨0xFE69, 0xFE6A, 1, -65093⟩,
  ⟨0xFE6B, 0xFE6B, 1, -65067⟩, ⟨0xFE80, 0xFE81, 1, -63583⟩, ⟨0xFE82, 0xFE83, 1, -63584⟩,
  ⟨0xFE84, 0xFE85, 1, -63585⟩, ⟨0xFE86, 0xFE87, 1, -63586⟩, ⟨0xFE88, 0xFE89, 1, -63587⟩,
  ⟨0xFE8A, 0xFE8A, 1, -63588⟩, ⟨0xFE8B, 0xFE8B, 1, -63589⟩, ⟨0xFE8C, 0xFE8D, 1, -63590⟩,
  ⟨0xFE8E, 0xFE8F, 1, -63591⟩, ⟨0xFE90, 0xFE90, 1, -63592⟩, ⟨0xFE91, 0xFE91, 1, -63593⟩,
  ⟨0xFE92, 0xFE93, 1, -63594⟩, ⟨0xFE94, 0xFE95, 1, -63595⟩, ⟨0xFE96, 0xFE96, 1, -63596⟩,
  ⟨0xFE97, 0xFE97, 1, -63597⟩, ⟨0xFE98, 0xFE99, 1, -63598⟩, ⟨0xFE9A, 0xFE9A, 1, -63599⟩,
  ⟨0xFE9B, 0xFE9B, 1, -63600⟩, ⟨0xFE9C, 0xFE9D, 1, -63601⟩, ⟨0xFE9E, 0xFE9E, 1, -63602⟩,
  ⟨0xFE9F, 0xFE9F, 1, -63603⟩, ⟨0xFEA0, 0xFEA1, 1, -63604⟩, ⟨0xFEA2, 0xFEA2, 1, -63605⟩,
  ⟨0xFEA3, 0xFEA3, 1, -63606⟩, ⟨0xFEA4, 0xFEA5, 1, -63607⟩, ⟨0xFEA6, 0xFEA6, 1, -63608⟩,
  ⟨0xFEA7, 0xFEA7, 1, -63609⟩, ⟨0xFEA8, 0xFEA9, 1, -63610⟩, ⟨0xFEAA, 0xFEAB, 1, -63611⟩,
  ⟨0xFEAC, 0xFEAD, 1, -63612⟩, ⟨0xFEAE, 0xFEAF, 1, -63613⟩, ⟨0xFEB0, 0xFEB1, 1, -63614⟩,
  ⟨0xFEB2, 0xFEB2, 1, -63615⟩, ⟨0xFEB3, 0xFEB3, 1, -63616⟩, ⟨0xFEB4, 0xFEB5, 1, -63617⟩,
  ⟨0xFEB6, 0xFEB6, 1, -63618⟩, ⟨0xFEB7, 0xFEB7, 1, -63619⟩, ⟨0xFEB8, 0xFEB9, 1, -63620⟩,
  ⟨0xFEBA, 0xFEBA, 1, -63621⟩, ⟨0xFEBB, 0xFEBB, 1, -63622⟩, ⟨0xFEBC, 0xFEBD, 1, -63623⟩,
  ⟨0xFEBE, 0xFEBE, 1, -63624⟩, ⟨0xFEBF, 0xFEBF, 1, -63625⟩, ⟨0xFEC0, 0xFEC1, 1, -63626⟩,
  ⟨0xFEC2, 0xFEC2, 1, -63627⟩, ⟨0xFEC3, 0xFEC3, 1, -63628⟩, ⟨0xFEC4, 0xFEC5, 1, -63629⟩,
  ⟨0xFEC6, 0xFEC6, 1, -63630⟩, ⟨0xFEC7, 0xFEC7, 1, -63631⟩, ⟨0xFEC8, 0xFEC9, 1, -63632⟩,
  ⟨0xFECA, 0xFECA, 1, -63633⟩, ⟨0xFECB, 0xFECB, 1, -63634⟩, ⟨0xFECC, 0xFECD, 1, -63635⟩,
  ⟨0xFECE, 0xFECE, 1, -63636⟩, ⟨0xFECF, 0xFECF, 1, -63637⟩, ⟨0xFED0, 0xFED0, 1, -63638⟩,
  ⟨0xFED1, 0xFED1, 1, -63632⟩, ⟨0xFED2, 0xFED2, 1, -63633⟩, ⟨0xFED3, 0xFED3, 1, -63634⟩,
  ⟨0xFED4, 0xFED5, 1, -63635⟩, ⟨0xFED6, 0xFED6, 1, -63636⟩, ⟨0xFED7, 0xFED7, 1, -63637⟩,
  ⟨0xFED8, 0xFED9, 1, -63638⟩, ⟨0xFEDA, 0xFEDA, 1, -63639⟩, ⟨0xFEDB, 0xFEDB, 1, -63640⟩,
  ⟨0xFEDC, 0xFEDD, 1, -63641⟩, ⟨0xFEDE, 0xFEDE, 1, -63642⟩, ⟨0xFEDF, 0xFEDF, 1, -63643⟩,
  ⟨0xFEE0, 0xFEE1, 1, -63644⟩, ⟨0xFEE2, 0xFEE2, 1, -63645⟩, ⟨0xFEE3, 0xFEE3, 1, -63646⟩,
  ⟨0xFEE4, 0xFEE5, 1, -63647⟩, ⟨0xFEE6, 0xFEE6, 1, -63648⟩, ⟨0xFEE7, 0xFEE7, 1, -63649⟩,
  ⟨0xFEE8, 0xFEE9, 1, -63650⟩, ⟨0xFEEA, 0xFEEA, 1, -63651⟩, ⟨0xFEEB, 0xFEEB, 1, -63652⟩,
  ⟨0xFEEC, 0xFEED, 1, -63653⟩, ⟨0xFEEE, 0xFEEF, 1, -63654⟩, ⟨0xFEF0, 0xFEF1, 1, -63655⟩,
  ⟨0xFEF2, 0xFEF2, 1, -63656⟩, ⟨0xFEF3, 0xFEF3, 1, -63657⟩, ⟨0xFEF4, 0xFEF4, 1, -63658⟩,
  ⟨0xFF01, 0xFF20, 1, -65248⟩, ⟨0xFF21, 0xFF3A, 1, -65216⟩, ⟨0xFF3B, 0xFF5E, 1, -65248⟩,
  ⟨0xFF5F, 0xFF60, 1, -54746⟩, ⟨0xFF61, 0xFF61, 1, -65331⟩, ⟨0xFF62, 0xFF63, 1, -53078⟩,
  ⟨0xFF64, 0xFF64, 1, -53091⟩, ⟨0xFF65, 0xFF65, 1, -52842⟩, ⟨0xFF66, 0xFF66, 1, -52852⟩,
  ⟨0xFF67, 0xFF67, 1, -52934⟩, ⟨0xFF68, 0xFF68, 1, -52933⟩, ⟨0xFF69, 0xFF69, 1, -52932⟩,
  ⟨0xFF6A, 0xFF6A, 1, -52931⟩, ⟨0xFF6B, 0xFF6B, 1, -52930⟩, ⟨0xFF6C, 0xFF6C, 1, -52873⟩,
  ⟨0xFF6D, 0xFF6D, 1, -52872⟩, ⟨0xFF6E, 0xFF6E, 1, -52871⟩, ⟨0xFF6F, 0xFF6F, 1, -52908⟩,
  ⟨0xFF70, 0xFF70, 1, -52852⟩, ⟨0xFF71, 0xFF71, 1, -52943⟩, ⟨0xFF72, 0xFF72, 1, -52942⟩,
  ⟨0xFF73, 0xFF73, 1, -52941⟩, ⟨0xFF74, 0xFF74, 1, -52940⟩, ⟨0xFF75, 0xFF76, 1, -52939⟩,
  ⟨0xFF77, 0xFF77, 1, -52938⟩, ⟨0xFF78, 0xFF78, 1, -52937⟩, ⟨0xFF79, 0xFF79, 1, -52936⟩,
  ⟨0xFF7A, 0xFF7A, 1, -52935⟩, ⟨0xFF7B, 0xFF7B, 1, -52934⟩, ⟨0xFF7C, 0xFF7C, 1, -52933⟩,
  ⟨0xFF7D, 0xFF7D, 1, -52932⟩, ⟨0xFF7E, 0xFF7E, 1, -52931⟩, ⟨0xFF7F, 0xFF7F, 1, -52930⟩,
  ⟨0xFF80, 0xFF80, 1, -52929⟩, ⟨0xFF81, 0xFF81, 1, -52928⟩, ⟨0xFF82, 0xFF82, 1, -52926⟩,
  ⟨0xFF83, 0xFF83, 1, -52925⟩, ⟨0xFF84, 0xFF84, 1, -52924⟩, ⟨0xFF85, 0xFF8A, 1, -52923⟩,
  ⟨0xFF8B, 0xFF8B, 1, -52921⟩, ⟨0xFF8C, 0xFF8C, 1, -52919⟩, ⟨0xFF8D, 0xFF8D, 1, -52917⟩,
  ⟨0xFF8E, 0xFF8E, 1, -52915⟩, ⟨0xFF8F, 0xFF93, 1, -52913⟩, ⟨0xFF94, 0xFF94, 1, -52912⟩,
  ⟨0xFF95, 0xFF95, 1, -52911⟩, ⟨0xFF96, 0xFF9B, 1, -52910⟩, ⟨0xFF9C, 0xFF9C, 1, -52909⟩,
  ⟨0xFF9D, 0xFF9D, 1, -52906⟩, ⟨0xFF9E, 0xFF9F, 1, -52997⟩, ⟨0xFFA1, 0xFFA2, 1, -61089⟩,
  ⟨0xFFA3, 0xFFA3, 1, -60921⟩, ⟨0xFFA4, 0xFFA4, 1, -61090⟩, ⟨0xFFA5, 0xFFA6, 1, -60921⟩,
  ⟨0xFFA7, 0xFFA9, 1, -61092⟩, ⟨0xFFAA, 0xFFAF, 1, -60922⟩, ⟨0xFFB0, 0xFFB0, 1, -61078⟩,
  ⟨0xFFB1, 0xFFB3, 1, -61099⟩, ⟨0xFFB4, 0xFFB4, 1, -61075⟩, ⟨0xFFB5, 0xFFBE, 1, -61100⟩,
  ⟨0xFFC2, 0xFFC7, 1, -61025⟩, ⟨0xFFCA, 0xFFCF, 1, -61027⟩, ⟨0xFFD2, 0xFFD7, 1, -61029⟩,
  ⟨0xFFDA, 0xFFDC, 1, -61031⟩, ⟨0xFFE0, 0xFFE1, 1, -65342⟩, ⟨0xFFE2, 0xFFE2, 1, -65334⟩,
  ⟨0xFFE4, 0xFFE4, 1, -65342⟩, ⟨0xFFE5, 0xFFE5, 1, -65344⟩, ⟨0xFFE6, 0xFFE6, 1, -57149⟩,
  ⟨0xFFE8, 0xFFE8, 1, -56038⟩, ⟨0xFFE9, 0xFFEC, 1, -56921⟩, ⟨0xFFED, 0xFFED, 1, -55885⟩,
  ⟨0xFFEE, 0xFFEE, 1, -55843⟩, ⟨0x10400, 0x10427, 1, 40⟩, ⟨0x104B0, 0x104D3, 1, 40⟩,
  ⟨0x10570, 0x1057A, 1, 39⟩, ⟨0x1057C, 0x1058A, 1, 39⟩, ⟨0x1058C, 0x10592, 1, 39⟩,
  ⟨0x10594, 0x10595, 1, 39⟩, ⟨0x10781, 0x10782, 1, -66737⟩, ⟨0x10783, 0x10783, 1, -67229⟩,
  ⟨0x10784, 0x10784, 1, -66795⟩, ⟨0x10785, 0x10785, 1, -66866⟩, ⟨0x10787, 0x10787, 1, -66788⟩,
  ⟨0x10788, 0x10788, 1, -23586⟩, ⟨0x10789, 0x10789, 1, -66788⟩, ⟨0x1078A, 0x1078A, 1, -66790⟩,
  ⟨0x1078B, 0x1078C, 1, -66869⟩, ⟨0x1078D, 0x1078D, 1, -59900⟩, ⟨0x1078E, 0x1078E, 1, -66870⟩,
  ⟨0x1078F, 0x1078F, 1, -66865⟩, ⟨0x10790, 0x10790, 1, -66791⟩, ⟨0x10791, 0x10791, 1, -66861⟩,
  ⟨0x10792, 0x10792, 1, -66864⟩, ⟨0x10793, 0x10793, 1, -66867⟩, ⟨0x10794, 0x10794, 1, -66809⟩,
  ⟨0x10795, 0x10795, 1, -67182⟩, ⟨0x10796, 0x10796, 1, -66810⟩, ⟨0x10797, 0x10797, 1, -66864⟩,
  ⟨0x10798, 0x10798, 1, -66836⟩, ⟨0x10799, 0x1079A, 1, -66799⟩, ⟨0x1079B, 0x1079B, 1, -66863⟩,
  ⟨0x1079C, 0x1079C, 1, 55144⟩, ⟨0x1079D, 0x1079D, 1, -24591⟩, ⟨0x1079E, 0x1079E, 1, -66864⟩,
  ⟨0x1079F, 0x1079F, 1, 55142⟩, ⟨0x107A0, 0x107A0, 1, -66834⟩, ⟨0x107A1, 0x107A1, 1, 55141⟩,
  ⟨0x107A2, 0x107A2, 1, -67242⟩, ⟨0x107A3, 0x107A4, 1, -66861⟩, ⟨0x107A5, 0x107A5, 1, -67380⟩,
  ⟨0x107A6, 0x107A6, 1, -66860⟩, ⟨0x107A7, 0x107A7, 1, 55137⟩, ⟨0x107A8, 0x107A9, 1, -66859⟩,
  ⟨0x107AA, 0x107AA, 1, -66858⟩, ⟨0x107AB, 0x107AB, 1, -66819⟩, ⟨0x107AC, 0x107AC, 1, -66822⟩,
  ⟨0x107AD, 0x107AD, 1, -23622⟩, ⟨0x107AE, 0x107AE, 1, -66823⟩, ⟨0x107AF, 0x107AF, 1, -66855⟩,
  ⟨0x107B0, 0x107B0, 1, -56127⟩, ⟨0x107B2, 0x107B2, 1, -66851⟩, ⟨0x107B3, 0x107B4, 1, -66834⟩,
  ⟨0x107B5, 0x107B5, 1, -66845⟩, ⟨0x107B6, 0x107B8, 1, -67062⟩, ⟨0x107B9, 0x107B9, 1, 55121⟩,
  ⟨0x107BA, 0x107BA, 1, 55140⟩, ⟨0x10C80, 0x10CB2, 1, 64⟩, ⟨0x10D50, 0x10D65, 1, 32⟩,
  ⟨0x118A0, 0x118BF, 1, 32⟩, ⟨0x16E40, 0x16E5F, 1, 32⟩, ⟨0x16EA0, 0x16EB8, 1, 27⟩,
  ⟨0x1CCD6, 0x1CCEF, 1, -117877⟩, ⟨0x1CCF0, 0x1CCF9, 1, -117952⟩, ⟨0x1D400, 0x1D419, 1, -119711⟩,
  ⟨0x1D41A, 0x1D433, 1, -119737⟩, ⟨0x1D434, 0x1D44D, 1, -119763⟩, ⟨0x1D44E, 0x1D454, 1, -119789⟩,
  ⟨0x1D456, 0x1D467, 1, -119789⟩, ⟨0x1D468, 0x1D481, 1, -119815⟩, ⟨0x1D482, 0x1D49B, 1, -119841⟩,
  ⟨0x1D49C, 0x1D49E, 2, -119867⟩, ⟨0x1D49F, 0x1D49F, 1, -119867⟩, ⟨0x1D4A2, 0x1D4A2, 1, -119867⟩,
  ⟨0x1D4A5, 0x1D4A6, 1, -119867⟩, ⟨0x1D4A9, 0x1D4AC, 1, -119867⟩, ⟨0x1D4AE, 0x1D4B5, 1, -119867⟩,
  ⟨0x1D4B6, 0x1D4B9, 1, -119893⟩, ⟨0x1D4BB, 0x1D4BD, 2, -119893⟩, ⟨0x1D4BE, 0x1D4C3, 1, -119893⟩,
  ⟨0x1D4C5, 0x1D4CF, 1, -119893⟩, ⟨0x1D4D0, 0x1D4E9, 1, -119919⟩, ⟨0x1D4EA, 0x1D503, 1, -119945⟩,
  ⟨0x1D504, 0x1D505, 1, -119971⟩, ⟨0x1D507, 0x1D50A, 1, -119971⟩, ⟨0x1D50D, 0x1D514, 1, -119971⟩,
  ⟨0x1D516, 0x1D51C, 1, -119971⟩, ⟨0x1D51E, 0x1D537, 1, -119997⟩, ⟨0x1D538, 0x1D539, 1, -120023⟩,
  ⟨0x1D53B, 0x1D53E, 1, -120023⟩, ⟨0x1D540, 0x1D544, 1, -120023⟩, ⟨0x1D546, 0x1D546, 1, -120023⟩,
  ⟨0x1D54A, 0x1D550, 1, -120023⟩, ⟨0x1D552, 0x1D56B, 1, -120049⟩, ⟨0x1D56C, 0x1D585, 1, -120075⟩,
  ⟨0x1D586, 0x1D59F, 1, -120101⟩, ⟨0x1D5A0, 0x1D5B9, 1, -120127⟩, ⟨0x1D5BA, 0x1D5D3, 1, -120153⟩,
  ⟨0x1D5D4, 0x1D5ED, 1, -120179⟩, ⟨0x1D5EE, 0x1D607, 1, -120205⟩, ⟨0x1D608, 0x1D621, 1, -120231⟩,
  ⟨0x1D622, 0x1D63B, 1, -120257⟩, ⟨0x1D63C, 0x1D655, 1, -120283⟩, ⟨0x1D656, 0x1D66F, 1, -120309⟩,
  ⟨0x1D670, 0x1D689, 1, -120335⟩, ⟨0x1D68A, 0x1D6A3, 1, -120361⟩, ⟨0x1D6A4, 0x1D6A4, 1, -120179⟩,
  ⟨0x1D6A5, 0x1D6A5, 1, -119918⟩, ⟨0x1D6A8, 0x1D6B8, 1, -119543⟩, ⟨0x1D6B9, 0x1D6B9, 1, -119553⟩,
  ⟨0x1D6BA, 0x1D6C0, 1, -119543⟩, ⟨0x1D6C1, 0x1D6C1, 1, -111802⟩, ⟨0x1D6C2, 0x1D6D2, 1, -119569⟩,
  ⟨0x1D6D3, 0x1D6D3, 1, -119568⟩, ⟨0x1D6D4, 0x1D6DA, 1, -119569⟩, ⟨0x1D6DB, 0x1D6DB, 1, -111833⟩,
  ⟨0x1D6DC, 0x1D6DC, 1, -119591⟩, ⟨0x1D6DD, 0x1D6DD, 1, -119589⟩, ⟨0x1D6DE, 0x1D6DE, 1, -119588⟩,
  ⟨0x1D6DF, 0x1D6DF, 1, -119577⟩, ⟨0x1D6E0, 0x1D6E0, 1, -119583⟩, ⟨0x1D6E1, 0x1D6E1, 1, -119585⟩,
  ⟨0x1D6E2, 0x1D6F2, 1, -119601⟩, ⟨0x1D6F3, 0x1D6F3, 1, -119611⟩, ⟨0x1D6F4, 0x1D6FA, 1, -119601⟩,
  ⟨0x1D6FB, 0x1D6FB, 1, -111860⟩, ⟨0x1D6FC, 0x1D70C, 1, -119627⟩, ⟨0x1D70D, 0x1D70D, 1, -119626⟩,
  ⟨0x1D70E, 0x1D714, 1, -119627⟩, ⟨0x1D715, 0x1D715, 1, -111891⟩, ⟨0x1D716, 0x1D716, 1, -119649⟩,
  ⟨0x1D717, 0x1D717, 1, -119647⟩, ⟨0x1D718, 0x1D718, 1, -119646⟩, ⟨0x1D719, 0x1D719, 1, -119635⟩,
  ⟨0x1D71A, 0x1D71A, 1, -119641⟩, ⟨0x1D71B, 0x1D71B, 1, -119643⟩, ⟨0x1D71C, 0x1D72C, 1, -119659⟩,
  ⟨0x1D72D, 0x1D72D, 1, -119669⟩, ⟨0x1D72E, 0x1D734, 1, -119659⟩, ⟨0x1D735, 0x1D735, 1, -111918⟩,
  ⟨0x1D736, 0x1D746, 1, -119685⟩, ⟨0x1D747, 0x1D747, 1, -119684⟩, ⟨0x1D748, 0x1D74E, 1, -119685⟩,
  ⟨0x1D74F, 0x1D74F, 1, -111949⟩, ⟨0x1D750, 0x1D750, 1, -119707⟩, ⟨0x1D751, 0x1D751, 1, -119705⟩,
  ⟨0x1D752, 0x1D752, 1, -119704⟩, ⟨0x1D753, 0x1D753, 1, -119693⟩, ⟨0x1D754, 0x1D754, 1, -119699⟩,
  ⟨0x1D755, 0x1D755, 1, -119701⟩, ⟨0x1D756, 0x1D766, 1, -119717⟩, ⟨0x1D767, 0x1D767, 1, -119727⟩,
  ⟨0x1D768, 0x1D76E, 1, -119717⟩, ⟨0x1D76F, 0x1D76F, 1, -111976⟩, ⟨0x1D770, 0x1D780, 1, -119743⟩,
  ⟨0x1D781, 0x1D781, 1, -119742⟩, ⟨0x1D782, 0x1D788, 1, -119743⟩, ⟨0x1D789, 0x1D789, 1, -112007⟩,
  ⟨0x1D78A, 0x1D78A, 1, -119765⟩, ⟨0x1D78B, 0x1D78B, 1, -119763⟩, ⟨0x1D78C, 0x1D78C, 1, -119762⟩,
  ⟨0x1D78D, 0x1D78D, 1, -119751⟩, ⟨0x1D78E, 0x1D78E, 1, -119757⟩, ⟨0x1D78F, 0x1D78F, 1, -119759⟩,
  ⟨0x1D790, 0x1D7A0, 1, -119775⟩, ⟨0x1D7A1, 0x1D7A1, 1, -119785⟩, ⟨0x1D7A2, 0x1D7A8, 1, -119775⟩,
  ⟨0x1D7A9, 0x1D7A9, 1, -112034⟩, ⟨0x1D7AA, 0x1D7BA, 1, -119801⟩, ⟨0x1D7BB, 0x1D7BB, 1, -119800⟩,
  ⟨0x1D7BC, 0x1D7C2, 1, -119801⟩, ⟨0x1D7C3, 0x1D7C3, 1, -112065⟩, ⟨0x1D7C4, 0x1D7C4, 1, -119823⟩,
  ⟨0x1D7C5, 0x1D7C5, 1, -119821⟩, ⟨0x1D7C6, 0x1D7C6, 1, -119820⟩, ⟨0x1D7C7, 0x1D7C7, 1, -119809⟩,
  ⟨0x1D7C8, 0x1D7C8, 1, -119815⟩, ⟨0x1D7C9, 0x1D7C9, 1, -119817⟩, ⟨0x1D7CA, 0x1D7CA, 1, -119789⟩,
  ⟨0x1D7CB, 0x1D7CB, 1, -119790⟩, ⟨0x1D7CE, 0x1D7D7, 1, -120734⟩, ⟨0x1D7D8, 0x1D7E1, 1, -120744⟩,
  ⟨0x1D7E2, 0x1D7EB, 1, -120754⟩, ⟨0x1D7EC, 0x1D7F5, 1, -120764⟩, ⟨0x1D7F6, 0x1D7FF, 1, -120774⟩,
  ⟨0x1E030, 0x1E038, 1, -121856⟩, ⟨0x1E039, 0x1E03B, 1, -121855⟩, ⟨0x1E03C, 0x1E046, 1, -121854⟩,
  ⟨0x1E047, 0x1E047, 1, -121852⟩, ⟨0x1E048, 0x1E049, 1, -121851⟩, ⟨0x1E04A, 0x1E04A, 1, -80321⟩,
  ⟨0x1E04B, 0x1E04B, 1, -121714⟩, ⟨0x1E04C, 0x1E04C, 1, -121846⟩, ⟨0x1E04D, 0x1E04D, 1, -121845⟩,
  ⟨0x1E04E, 0x1E04E, 1, -121701⟩, ⟨0x1E04F, 0x1E04F, 1, -121760⟩, ⟨0x1E050, 0x1E050, 1, -121729⟩,
  ⟨0x1E051, 0x1E059, 1, -121889⟩, ⟨0x1E05A, 0x1E05B, 1, -121888⟩, ⟨0x1E05C, 0x1E05D, 1, -121886⟩,
  ⟨0x1E05E, 0x1E05E, 1, -121885⟩, ⟨0x1E05F, 0x1E064, 1, -121884⟩, ⟨0x1E065, 0x1E066, 1, -121883⟩,
  ⟨0x1E067, 0x1E067, 1, -121814⟩, ⟨0x1E068, 0x1E068, 1, -121874⟩, ⟨0x1E069, 0x1E069, 1, -121876⟩,
  ⟨0x1E06A, 0x1E06A, 1, -121867⟩, ⟨0x1E06B, 0x1E06B, 1, -121792⟩, ⟨0x1E06C, 0x1E06C, 1, -80411⟩,
  ⟨0x1E06D, 0x1E06D, 1, -121788⟩, ⟨0x1E900, 0x1E921, 1, 34⟩, ⟨0x1EE00, 0x1EE01, 1, -124889⟩,
  ⟨0x1EE02, 0x1EE02, 1, -124886⟩, ⟨0x1EE03, 0x1EE03, 1, -124884⟩, ⟨0x1EE05, 0x1EE05, 1, -124861⟩,
  ⟨0x1EE06, 0x1EE06, 1, -124884⟩, ⟨0x1EE07, 0x1EE07, 1, -124890⟩, ⟨0x1EE08, 0x1EE08, 1, -124881⟩,
  ⟨0x1EE09, 0x1EE09, 1, -124863⟩, ⟨0x1EE0A, 0x1EE0D, 1, -124871⟩, ⟨0x1EE0E, 0x1EE0E, 1, -124891⟩,
  ⟨0x1EE0F, 0x1EE0F, 1, -124886⟩, ⟨0x1EE10, 0x1EE10, 1, -124879⟩, ⟨0x1EE11, 0x1EE11, 1, -124892⟩,
  ⟨0x1EE12, 0x1EE12, 1, -124880⟩, ⟨0x1EE13, 0x1EE13, 1, -124898⟩, ⟨0x1EE14, 0x1EE14, 1, -124896⟩,
  ⟨0x1EE15, 0x1EE16, 1, -124907⟩, ⟨0x1EE17, 0x1EE17, 1, -124905⟩, ⟨0x1EE18, 0x1EE18, 1, -124904⟩,
  ⟨0x1EE19, 0x1EE19, 1, -124899⟩, ⟨0x1EE1A, 0x1EE1A, 1, -124898⟩, ⟨0x1EE1B, 0x1EE1B, 1, -124897⟩,
  ⟨0x1EE1C, 0x1EE1C, 1, -124846⟩, ⟨0x1EE1D, 0x1EE1D, 1, -124771⟩, ⟨0x1EE1E, 0x1EE1E, 1, -124797⟩,
  ⟨0x1EE1F, 0x1EE1F, 1, -124848⟩, ⟨0x1EE21, 0x1EE21, 1, -124921⟩, ⟨0x1EE22, 0x1EE22, 1, -124918⟩,
  ⟨0x1EE24, 0x1EE24, 1, -124893⟩, ⟨0x1EE27, 0x1EE27, 1, -124922⟩, ⟨0x1EE29, 0x1EE29, 1, -124895⟩,
  ⟨0x1EE2A, 0x1EE2D, 1, -124903⟩, ⟨0x1EE2E, 0x1EE2E, 1, -124923⟩, ⟨0x1EE2F, 0x1EE2F, 1, -124918⟩,
  ⟨0x1EE30, 0x1EE30, 1, -124911⟩, ⟨0x1EE31, 0x1EE31, 1, -124924⟩, ⟨0x1EE32, 0x1EE32, 1, -124912⟩,
  ⟨0x1EE34, 0x1EE34, 1, -124928⟩, ⟨0x1EE35, 0x1EE36, 1, -124939⟩, ⟨0x1EE37, 0x1EE37, 1, -124937⟩,
  ⟨0x1EE39, 0x1EE39, 1, -124931⟩, ⟨0x1EE3B, 0x1EE3B, 1, -124929⟩, ⟨0x1EE42, 0x1EE42, 1, -124950⟩,
  ⟨0x1EE47, 0x1EE47, 1, -124954⟩, ⟨0x1EE49, 0x1EE49, 1, -124927⟩, ⟨0x1EE4B, 0x1EE4D, 2, -124935⟩,
  ⟨0x1EE4E, 0x1EE4E, 1, -124955⟩, ⟨0x1EE4F, 0x1EE4F, 1, -124950⟩, ⟨0x1EE51, 0x1EE51, 1, -124956⟩,
  ⟨0x1EE52, 0x1EE52, 1, -124944⟩, ⟨0x1EE54, 0x1EE54, 1, -124960⟩, ⟨0x1EE57, 0x1EE57, 1, -124969⟩,
  ⟨0x1EE59, 0x1EE59, 1, -124963⟩, ⟨0x1EE5B, 0x1EE5B, 1, -124961⟩, ⟨0x1EE5D, 0x1EE5D, 1, -124835⟩,
  ⟨0x1EE5F, 0x1EE5F, 1, -124912⟩, ⟨0x1EE61, 0x1EE61, 1, -124985⟩, ⟨0x1EE62, 0x1EE62, 1, -124982⟩,
  ⟨0x1EE64, 0x1EE64, 1, -124957⟩, ⟨0x1EE67, 0x1EE67, 1, -124986⟩, ⟨0x1EE68, 0x1EE68, 1, -124977⟩,
  ⟨0x1EE69, 0x1EE69, 1, -124959⟩, ⟨0x1EE6A, 0x1EE6C, 2, -124967⟩, ⟨0x1EE6D, 0x1EE6D, 1, -124967⟩,
  ⟨0x1EE6E, 0x1EE6E, 1, -124987⟩, ⟨0x1EE6F, 0x1EE6F, 1, -124982⟩, ⟨0x1EE70, 0x1EE70, 1, -124975⟩,
  ⟨0x1EE71, 0x1EE71, 1, -124988⟩, ⟨0x1EE72, 0x1EE72, 1, -124976⟩, ⟨0x1EE74, 0x1EE74, 1, -124992⟩,
  ⟨0x1EE75, 0x1EE76, 1, -125003⟩, ⟨0x1EE77, 0x1EE77, 1, -125001⟩, ⟨0x1EE79, 0x1EE79, 1, -124995⟩,
  ⟨0x1EE7A, 0x1EE7A, 1, -124994⟩, ⟨0x1EE7B, 0x1EE7B, 1, -124993⟩, ⟨0x1EE7C, 0x1EE7C, 1, -124942⟩,
  ⟨0x1EE7E, 0x1EE7E, 1, -124893⟩, ⟨0x1EE80, 0x1EE81, 1, -125017⟩, ⟨0x1EE82, 0x1EE82, 1, -125014⟩,
  ⟨0x1EE83, 0x1EE83, 1, -125012⟩, ⟨0x1EE84, 0x1EE85, 1, -124989⟩, ⟨0x1EE86, 0x1EE86, 1, -125012⟩,
  ⟨0x1EE87, 0x1EE87, 1, -125018⟩, ⟨0x1EE88, 0x1EE88, 1, -125009⟩, ⟨0x1EE89, 0x1EE89, 1, -124991⟩,
  ⟨0x1EE8B, 0x1EE8D, 1, -124999⟩, ⟨0x1EE8E, 0x1EE8E, 1, -125019⟩, ⟨0x1EE8F, 0x1EE8F, 1, -125014⟩,
  ⟨0x1EE90, 0x1EE90, 1, -125007⟩, ⟨0x1EE91, 0x1EE91, 1, -125020⟩, ⟨0x1EE92, 0x1EE92, 1, -125008⟩,
  ⟨0x1EE93, 0x1EE93, 1, -125026⟩, ⟨0x1EE94, 0x1EE94, 1, -125024⟩, ⟨0x1EE95, 0x1EE96, 1, -125035⟩,
  ⟨0x1EE97, 0x1EE97, 1, -125033⟩, ⟨0x1EE98, 0x1EE98, 1, -125032⟩, ⟨0x1EE99, 0x1EE99, 1, -125027⟩,
  ⟨0x1EE9A, 0x1EE9A, 1, -125026⟩, ⟨0x1EE9B, 0x1EE9B, 1, -125025⟩, ⟨0x1EEA1, 0x1EEA1, 1, -125049⟩,
  ⟨0x1EEA2, 0x1EEA2, 1, -125046⟩, ⟨0x1EEA3, 0x1EEA3, 1, -125044⟩, ⟨0x1EEA5, 0x1EEA5, 1, -125021⟩,
  ⟨0x1EEA6, 0x1EEA6, 1, -125044⟩, ⟨0x1EEA7, 0x1EEA7, 1, -125050⟩, ⟨0x1EEA8, 0x1EEA8, 1, -125041⟩,
  ⟨0x1EEA9, 0x1EEA9, 1, -125023⟩, ⟨0x1EEAB, 0x1EEAD, 1, -125031⟩, ⟨0x1EEAE, 0x1EEAE, 1, -125051⟩,
  ⟨0x1EEAF, 0x1EEAF, 1, -125046⟩, ⟨0x1EEB0, 0x1EEB0, 1, -125039⟩, ⟨0x1EEB1, 0x1EEB1, 1, -125052⟩,
  ⟨0x1EEB2, 0x1EEB2, 1, -125040⟩, ⟨0x1EEB3, 0x1EEB3, 1, -125058⟩, ⟨0x1EEB4, 0x1EEB4, 1, -125056⟩,
  ⟨0x1EEB5, 0x1EEB6, 1, -125067⟩, ⟨0x1EEB7, 0x1EEB7, 1, -125065⟩, ⟨0x1EEB8, 0x1EEB8, 1, -125064⟩,
  ⟨0x1EEB9, 0x1EEB9, 1, -125059⟩, ⟨0x1EEBA, 0x1EEBA, 1, -125058⟩, ⟨0x1EEBB, 0x1EEBB, 1, -125057⟩,
  ⟨0x1F12B, 0x1F12B, 1, -127176⟩, ⟨0x1F12C, 0x1F12C, 1, -127162⟩, ⟨0x1F130, 0x1F149, 1, -127183⟩,
  ⟨0x1F202, 0x1F202, 1, -115021⟩, ⟨0x1F210, 0x1F210, 1, -102341⟩, ⟨0x1F211, 0x1F211, 1, -104122⟩,
  ⟨0x1F212, 0x1F212, 1, -106054⟩, ⟨0x1F213, 0x1F213, 1, -115020⟩, ⟨0x1F214, 0x1F214, 1, -107400⟩,
  ⟨0x1F215, 0x1F215, 1, -104699⟩, ⟨0x1F216, 0x1F216, 1, -92211⟩, ⟨0x1F217, 0x1F217, 1, -104686⟩,
  ⟨0x1F218, 0x1F218, 1, -107380⟩, ⟨0x1F219, 0x1F219, 1, -101369⟩, ⟨0x1F21A, 0x1F21A, 1, -98553⟩,
  ⟨0x1F21B, 0x1F21B, 1, -101506⟩, ⟨0x1F21C, 0x1F21C, 1, -106447⟩, ⟨0x1F21D, 0x1F21D, 1, -103057⟩,
  ⟨0x1F21E, 0x1F21E, 1, -106641⟩, ⟨0x1F21F, 0x1F21F, 1, -101487⟩, ⟨0x1F220, 0x1F220, 1, -106499⟩,
  ⟨0x1F221, 0x1F221, 1, -95455⟩, ⟨0x1F222, 0x1F222, 1, -97539⟩, ⟨0x1F223, 0x1F223, 1, -91514⟩,
  ⟨0x1F224, 0x1F224, 1, -104756⟩, ⟨0x1F225, 0x1F225, 1, -105964⟩, ⟨0x1F226, 0x1F226, 1, -99090⟩,
  ⟨0x1F227, 0x1F227, 1, -102290⟩, ⟨0x1F228, 0x1F228, 1, -102099⟩, ⟨0x1F229, 0x1F229, 1, -107561⟩,
  ⟨0x1F22A, 0x1F22A, 1, -107553⟩, ⟨0x1F22B, 0x1F22B, 1, -90593⟩, ⟨0x1F22C, 0x1F22C, 1, -103494⟩,
  ⟨0x1F22D, 0x1F22D, 1, -107520⟩, ⟨0x1F22E, 0x1F22E, 1, -106043⟩, ⟨0x1F22F, 0x1F22F, 1, -102184⟩,
  ⟨0x1F230, 0x1F230, 1, -91328⟩, ⟨0x1F231, 0x1F231, 1, -102366⟩, ⟨0x1F232, 0x1F232, 1, -96433⟩,
  ⟨0x1F233, 0x1F233, 1, -96185⟩, ⟨0x1F234, 0x1F234, 1, -106028⟩, ⟨0x1F235, 0x1F235, 1, -99253⟩,
  ⟨0x1F236, 0x1F236, 1, -101165⟩, ⟨0x1F237, 0x1F237, 1, -101167⟩, ⟨0x1F238, 0x1F238, 1, -97541⟩,
  ⟨0x1F239, 0x1F239, 1, -106439⟩, ⟨0x1F23A, 0x1F23A, 1, -105604⟩, ⟨0x1F23B, 0x1F23B, 1, -90350⟩,
  ⟨0x1F250, 0x1F250, 1, -103097⟩, ⟨0x1F251, 0x1F251, 1, -106082⟩, ⟨0x1FBF0, 0x1FBF9, 1, -129984⟩,
  ⟨0x2F800, 0x2F800, 1, -174531⟩, ⟨0x2F801, 0x2F801, 1, -174537⟩, ⟨0x2F802, 0x2F802, 1, -174529⟩,
  ⟨0x2F803, 0x2F803, 1, -63201⟩, ⟨0x2F804, 0x2F804, 1, -174244⟩, ⟨0x2F805, 0x2F805, 1, -174167⟩,
  ⟨0x2F806, 0x2F806, 1, -174155⟩, ⟨0x2F807, 0x2F807, 1, -174085⟩, ⟨0x2F808, 0x2F808, 1, -173966⟩,
  ⟨0x2F809, 0x2F809, 1, -173936⟩, ⟨0x2F80A, 0x2F80A, 1, -173859⟩, ⟨0x2F80B, 0x2F80B, 1, -173884⟩,
  ⟨0x2F80C, 0x2F80C, 1, -181102⟩, ⟨0x2F80D, 0x2F80D, 1, -61907⟩, ⟨0x2F80E, 0x2F80E, 1, -173761⟩,
  ⟨0x2F80F, 0x2F80F, 1, -173755⟩, ⟨0x2F810, 0x2F810, 1, -173740⟩, ⟨0x2F811, 0x2F811, 1, -173722⟩,
  ⟨0x2F812, 0x2F812, 1, -62198⟩, ⟨0x2F813, 0x2F813, 1, -181082⟩, ⟨0x2F814, 0x2F814, 1, -173741⟩,
  ⟨0x2F815, 0x2F815, 1, -173704⟩, ⟨0x2F816, 0x2F816, 1, -62155⟩, ⟨0x2F817, 0x2F817, 1, -173696⟩,
  ⟨0x2F818, 0x2F818, 1, -173684⟩, ⟨0x2F819, 0x2F819, 1, -174413⟩, ⟨0x2F81A, 0x2F81A, 1, -173678⟩,
  ⟨0x2F81B, 0x2F81B, 1, -173670⟩, ⟨0x2F81C, 0x2F81C, 1, -26173⟩, ⟨0x2F81D, 0x2F81D, 1, -173608⟩,
  ⟨0x2F81E, 0x2F81E, 1, -173595⟩, ⟨0x2F81F, 0x2F81F, 1, -181056⟩, ⟨0x2F820, 0x2F820, 1, -173541⟩,
  ⟨0x2F821, 0x2F821, 1, -173531⟩, ⟨0x2F822, 0x2F822, 1, -173488⟩, ⟨0x2F823, 0x2F823, 1, -173484⟩,
  ⟨0x2F824, 0x2F824, 1, -181007⟩, ⟨0x2F825, 0x2F825, 1, -173406⟩, ⟨0x2F826, 0x2F826, 1, -173405⟩,
  ⟨0x2F827, 0x2F827, 1, -173379⟩, ⟨0x2F828, 0x2F828, 1, -173358⟩, ⟨0x2F829, 0x2F82A, 1, -173348⟩,
  ⟨0x2F82B, 0x2F82B, 1, -173332⟩, ⟨0x2F82C, 0x2F82C, 1, -173283⟩, ⟨0x2F82D, 0x2F82D, 1, -173276⟩,
  ⟨0x2F82E, 0x2F82E, 1, -173268⟩, ⟨0x2F82F, 0x2F82F, 1, -173244⟩, ⟨0x2F830, 0x2F830, 1, -173235⟩,
  ⟨0x2F831, 0x2F831, 1, -173234⟩, ⟨0x2F832, 0x2F832, 1, -173235⟩, ⟨0x2F833, 0x2F833, 1, -173236⟩,
  ⟨0x2F834, 0x2F834, 1, -60936⟩, ⟨0x2F835, 0x2F835, 1, -165829⟩, ⟨0x2F836, 0x2F836, 1, -173164⟩,
  ⟨0x2F837, 0x2F837, 1, -173144⟩, ⟨0x2F838, 0x2F838, 1, -60629⟩, ⟨0x2F839, 0x2F839, 1, -173134⟩,
  ⟨0x2F83A, 0x2F83A, 1, -173129⟩, ⟨0x2F83B, 0x2F83B, 1, -173109⟩, ⟨0x2F83C, 0x2F83C, 1, -172958⟩,
  ⟨0x2F83D, 0x2F83D, 1, -173061⟩, ⟨0x2F83E, 0x2F83E, 1, -173046⟩, ⟨0x2F83F, 0x2F83F, 1, -173015⟩,
  ⟨0x2F840, 0x2F840, 1, -172958⟩, ⟨0x2F841, 0x2F841, 1, -172875⟩, ⟨0x2F842, 0x2F842, 1, -172850⟩,
  ⟨0x2F843, 0x2F843, 1, -172784⟩, ⟨0x2F844, 0x2F844, 1, -172769⟩, ⟨0x2F845, 0x2F845, 1, -172737⟩,
  ⟨0x2F846, 0x2F846, 1, -172738⟩, ⟨0x2F847, 0x2F847, 1, -172718⟩, ⟨0x2F848, 0x2F848, 1, -172701⟩,
  ⟨0x2F849, 0x2F849, 1, -172694⟩, ⟨0x2F84A, 0x2F84A, 1, -172680⟩, ⟨0x2F84B, 0x2F84B, 1, -172341⟩,
  ⟨0x2F84C, 0x2F84C, 1, -172614⟩, ⟨0x2F84D, 0x2F84D, 1, -172342⟩, ⟨0x2F84E, 0x2F84E, 1, -172541⟩,
  ⟨0x2F84F, 0x2F84F, 1, -172507⟩, ⟨0x2F850, 0x2F850, 1, -173641⟩, ⟨0x2F851, 0x2F851, 1, -171875⟩,
  ⟨0x2F852, 0x2F852, 1, -172164⟩, ⟨0x2F853, 0x2F853, 1, -172127⟩, ⟨0x2F854, 0x2F854, 1, -172103⟩,
  ⟨0x2F855, 0x2F855, 1, -172234⟩, ⟨0x2F856, 0x2F856, 1, -172068⟩, ⟨0x2F857, 0x2F857, 1, -172070⟩,
  ⟨0x2F858, 0x2F858, 1, -171948⟩, ⟨0x2F859, 0x2F859, 1, -58229⟩, ⟨0x2F85A, 0x2F85A, 1, -171880⟩,
  ⟨0x2F85B, 0x2F85B, 1, -171876⟩, ⟨0x2F85C, 0x2F85C, 1, -171862⟩, ⟨0x2F85D, 0x2F85D, 1, -171843⟩,
  ⟨0x2F85E, 0x2F85E, 1, -171836⟩, ⟨0x2F85F, 0x2F85F, 1, -171773⟩, ⟨0x2F860, 0x2F860, 1, -57784⟩,
  ⟨0x2F861, 0x2F861, 1, -57719⟩, ⟨0x2F862, 0x2F862, 1, -171638⟩, ⟨0x2F863, 0x2F863, 1, -171592⟩,
  ⟨0x2F864, 0x2F864, 1, -171581⟩, ⟨0x2F865, 0x2F865, 1, -171661⟩, ⟨0x2F866, 0x2F866, 1, -171520⟩,
  ⟨0x2F867, 0x2F867, 1, -180601⟩, ⟨0x2F868, 0x2F868, 1, -180588⟩, ⟨0x2F869, 0x2F869, 1, -171361⟩,
  ⟨0x2F86A, 0x2F86A, 1, -171308⟩, ⟨0x2F86B, 0x2F86B, 1, -171309⟩, ⟨0x2F86C, 0x2F86C, 1, -56996⟩,
  ⟨0x2F86D, 0x2F86D, 1, -171178⟩, ⟨0x2F86E, 0x2F86E, 1, -171158⟩, ⟨0x2F86F, 0x2F86F, 1, -171144⟩,
  ⟨0x2F870, 0x2F870, 1, -171133⟩, ⟨0x2F871, 0x2F871, 1, -56665⟩, ⟨0x2F872, 0x2F872, 1, -171123⟩,
  ⟨0x2F873, 0x2F873, 1, -171117⟩, ⟨0x2F874, 0x2F874, 1, -170273⟩, ⟨0x2F875, 0x2F875, 1, -171091⟩,
  ⟨0x2F876, 0x2F876, 1, -180469⟩, ⟨0x2F877, 0x2F877, 1, -171031⟩, ⟨0x2F878, 0x2F878, 1, -171018⟩,
  ⟨0x2F879, 0x2F879, 1, -170937⟩, ⟨0x2F87A, 0x2F87A, 1, -170989⟩, ⟨0x2F87B, 0x2F87B, 1, -55959⟩,
  ⟨0x2F87C, 0x2F87C, 1, -170809⟩, ⟨0x2F87D, 0x2F87D, 1, -55959⟩, ⟨0x2F87E, 0x2F87E, 1, -170768⟩,
  ⟨0x2F87F, 0x2F87F, 1, -170772⟩, ⟨0x2F880, 0x2F880, 1, -170756⟩, ⟨0x2F881, 0x2F882, 1, -170656⟩,
  ⟨0x2F883, 0x2F883, 1, -180308⟩, ⟨0x2F884, 0x2F884, 1, -170631⟩, ⟨0x2F885, 0x2F885, 1, -170589⟩,
  ⟨0x2F886, 0x2F886, 1, -170569⟩, ⟨0x2F887, 0x2F887, 1, -170526⟩, ⟨0x2F888, 0x2F888, 1, -180262⟩,
  ⟨0x2F889, 0x2F889, 1, -55046⟩, ⟨0x2F88A, 0x2F88A, 1, -180238⟩, ⟨0x2F88B, 0x2F88B, 1, -170459⟩,
  ⟨0x2F88C, 0x2F88C, 1, -170457⟩, ⟨0x2F88D, 0x2F88D, 1, -170455⟩, ⟨0x2F88E, 0x2F88E, 1, -170436⟩,
  ⟨0x2F88F, 0x2F88F, 1, -21757⟩, ⟨0x2F890, 0x2F890, 1, -170386⟩, ⟨0x2F891, 0x2F891, 1, -54624⟩,
  ⟨0x2F892, 0x2F892, 1, -54625⟩, ⟨0x2F893, 0x2F893, 1, -161426⟩, ⟨0x2F894, 0x2F894, 1, -170354⟩,
  ⟨0x2F895, 0x2F895, 1, -170355⟩, ⟨0x2F896, 0x2F896, 1, -180175⟩, ⟨0x2F897, 0x2F897, 1, -50655⟩,
  ⟨0x2F898, 0x2F898, 1, -38590⟩, ⟨0x2F899, 0x2F899, 1, -170295⟩, ⟨0x2F89A, 0x2F89A, 1, -170287⟩,
  ⟨0x2F89B, 0x2F89B, 1, -180152⟩, ⟨0x2F89C, 0x2F89C, 1, -170242⟩, ⟨0x2F89D, 0x2F89D, 1, -170192⟩,
  ⟨0x2F89E, 0x2F89E, 1, -170183⟩, ⟨0x2F89F, 0x2F89F, 1, -170150⟩, ⟨0x2F8A0, 0x2F8A0, 1, -170015⟩,
  ⟨0x2F8A1, 0x2F8A1, 1, -180071⟩]

def mappedRunsFourth : List Run := [
  ⟨0x2F8A2, 0x2F8A2, 1, -180102⟩, ⟨0x2F8A3, 0x2F8A3, 1, -169999⟩, ⟨0x2F8A4, 0x2F8A4, 1, -53712⟩,
  ⟨0x2F8A5, 0x2F8A5, 1, -169950⟩, ⟨0x2F8A6, 0x2F8A6, 1, -169822⟩, ⟨0x2F8A7, 0x2F8A7, 1, -169819⟩,
  ⟨0x2F8A8, 0x2F8A8, 1, -169818⟩, ⟨0x2F8A9, 0x2F8A9, 1, -169821⟩, ⟨0x2F8AA, 0x2F8AA, 1, -169776⟩,
  ⟨0x2F8AB, 0x2F8AB, 1, -169757⟩, ⟨0x2F8AC, 0x2F8AC, 1, -169722⟩, ⟨0x2F8AD, 0x2F8AD, 1, -169737⟩,
  ⟨0x2F8AE, 0x2F8AE, 1, -169727⟩, ⟨0x2F8AF, 0x2F8AF, 1, -169681⟩, ⟨0x2F8B0, 0x2F8B0, 1, -169662⟩,
  ⟨0x2F8B1, 0x2F8B1, 1, -169659⟩, ⟨0x2F8B2, 0x2F8B2, 1, -169634⟩, ⟨0x2F8B3, 0x2F8B3, 1, -169624⟩,
  ⟨0x2F8B4, 0x2F8B4, 1, -169559⟩, ⟨0x2F8B5, 0x2F8B5, 1, -169476⟩, ⟨0x2F8B6, 0x2F8B6, 1, -169442⟩,
  ⟨0x2F8B7, 0x2F8B7, 1, -169319⟩, ⟨0x2F8B8, 0x2F8B8, 1, -52652⟩, ⟨0x2F8B9, 0x2F8B9, 1, -169340⟩,
  ⟨0x2F8BA, 0x2F8BA, 1, -169406⟩, ⟨0x2F8BB, 0x2F8BB, 1, -169299⟩, ⟨0x2F8BC, 0x2F8BC, 1, -169273⟩,
  ⟨0x2F8BD, 0x2F8BD, 1, -169177⟩, ⟨0x2F8BE, 0x2F8BE, 1, -52429⟩, ⟨0x2F8BF, 0x2F8BF, 1, -169117⟩,
  ⟨0x2F8C0, 0x2F8C0, 1, -169211⟩, ⟨0x2F8C1, 0x2F8C1, 1, -169240⟩, ⟨0x2F8C2, 0x2F8C2, 1, -179860⟩,
  ⟨0x2F8C3, 0x2F8C3, 1, -169050⟩, ⟨0x2F8C4, 0x2F8C4, 1, -169030⟩, ⟨0x2F8C5, 0x2F8C5, 1, -169000⟩,
  ⟨0x2F8C6, 0x2F8C6, 1, -169039⟩, ⟨0x2F8C7, 0x2F8C7, 1, -179803⟩, ⟨0x2F8C8, 0x2F8C8, 1, -168825⟩,
  ⟨0x2F8C9, 0x2F8C9, 1, -168797⟩, ⟨0x2F8CA, 0x2F8CA, 1, -51392⟩, ⟨0x2F8CB, 0x2F8CB, 1, -168680⟩,
  ⟨0x2F8CC, 0x2F8CC, 1, -168404⟩, ⟨0x2F8CD, 0x2F8CD, 1, -168580⟩, ⟨0x2F8CE, 0x2F8CE, 1, -179637⟩,
  ⟨0x2F8CF, 0x2F8CF, 1, -168510⟩, ⟨0x2F8D0, 0x2F8D0, 1, -179656⟩, ⟨0x2F8D1, 0x2F8D1, 1, -179693⟩,
  ⟨0x2F8D2, 0x2F8D2, 1, -173888⟩, ⟨0x2F8D3, 0x2F8D3, 1, -173886⟩, ⟨0x2F8D4, 0x2F8D4, 1, -168404⟩,
  ⟨0x2F8D5, 0x2F8D5, 1, -168505⟩, ⟨0x2F8D6, 0x2F8D6, 1, -161833⟩, ⟨0x2F8D7, 0x2F8D7, 1, -177406⟩,
  ⟨0x2F8D8, 0x2F8D8, 1, -168385⟩, ⟨0x2F8D9, 0x2F8D9, 1, -168382⟩, ⟨0x2F8DA, 0x2F8DA, 1, -168377⟩,
  ⟨0x2F8DB, 0x2F8DB, 1, -168317⟩, ⟨0x2F8DC, 0x2F8DC, 1, -168329⟩, ⟨0x2F8DD, 0x2F8DD, 1, -50458⟩,
  ⟨0x2F8DE, 0x2F8DE, 1, -179605⟩, ⟨0x2F8DF, 0x2F8DF, 1, -168165⟩, ⟨0x2F8E0, 0x2F8E0, 1, -168283⟩,
  ⟨0x2F8E1, 0x2F8E1, 1, -168079⟩, ⟨0x2F8E2, 0x2F8E2, 1, -168029⟩, ⟨0x2F8E3, 0x2F8E3, 1, -50294⟩,
  ⟨0x2F8E4, 0x2F8E4, 1, -168022⟩, ⟨0x2F8E5, 0x2F8E5, 1, -168134⟩, ⟨0x2F8E6, 0x2F8E6, 1, -167890⟩,
  ⟨0x2F8E7, 0x2F8E7, 1, -179530⟩, ⟨0x2F8E8, 0x2F8E8, 1, -167846⟩, ⟨0x2F8E9, 0x2F8E9, 1, -167750⟩,
  ⟨0x2F8EA, 0x2F8EA, 1, -167680⟩, ⟨0x2F8EB, 0x2F8EB, 1, -167491⟩, ⟨0x2F8EC, 0x2F8EC, 1, -49737⟩,
  ⟨0x2F8ED, 0x2F8ED, 1, -167442⟩, ⟨0x2F8EE, 0x2F8EE, 1, -179414⟩, ⟨0x2F8EF, 0x2F8EF, 1, -167374⟩,
  ⟨0x2F8F0, 0x2F8F0, 1, -49225⟩, ⟨0x2F8F1, 0x2F8F1, 1, -167325⟩, ⟨0x2F8F2, 0x2F8F2, 1, -179364⟩,
  ⟨0x2F8F3, 0x2F8F3, 1, -167297⟩, ⟨0x2F8F4, 0x2F8F4, 1, -167253⟩, ⟨0x2F8F5, 0x2F8F6, 1, -167227⟩,
  ⟨0x2F8F7, 0x2F8F7, 1, -48746⟩, ⟨0x2F8F8, 0x2F8F8, 1, -56301⟩, ⟨0x2F8F9, 0x2F8F9, 1, -48639⟩,
  ⟨0x2F8FA, 0x2F8FA, 1, -167084⟩, ⟨0x2F8FB, 0x2F8FB, 1, -48191⟩, ⟨0x2F8FC, 0x2F8FC, 1, -166973⟩,
  ⟨0x2F8FD, 0x2F8FD, 1, -166960⟩, ⟨0x2F8FE, 0x2F8FE, 1, -167063⟩, ⟨0x2F8FF, 0x2F8FF, 1, -166889⟩,
  ⟨0x2F900, 0x2F900, 1, -166850⟩, ⟨0x2F901, 0x2F901, 1, -166794⟩, ⟨0x2F902, 0x2F902, 1, -166849⟩,
  ⟨0x2F903, 0x2F903, 1, -166810⟩, ⟨0x2F904, 0x2F904, 1, -166796⟩, ⟨0x2F905, 0x2F905, 1, -166784⟩,
  ⟨0x2F906, 0x2F906, 1, -48104⟩, ⟨0x2F907, 0x2F907, 1, -166867⟩, ⟨0x2F908, 0x2F908, 1, -166617⟩,
  ⟨0x2F909, 0x2F909, 1, -166555⟩, ⟨0x2F90A, 0x2F90A, 1, -179159⟩, ⟨0x2F90B, 0x2F90B, 1, -166464⟩,
  ⟨0x2F90C, 0x2F90C, 1, -166469⟩, ⟨0x2F90D, 0x2F90D, 1, -47676⟩, ⟨0x2F90E, 0x2F90E, 1, -166677⟩,
  ⟨0x2F90F, 0x2F90F, 1, -166305⟩, ⟨0x2F910, 0x2F910, 1, -47538⟩, ⟨0x2F911, 0x2F911, 1, -47491⟩,
  ⟨0x2F912, 0x2F912, 1, -166220⟩, ⟨0x2F913, 0x2F913, 1, -166106⟩, ⟨0x2F914, 0x2F914, 1, -166134⟩,
  ⟨0x2F915, 0x2F915, 1, -166138⟩, ⟨0x2F916, 0x2F916, 1, -179072⟩, ⟨0x2F917, 0x2F917, 1, -166093⟩,
  ⟨0x2F918, 0x2F918, 1, -166043⟩, ⟨0x2F919, 0x2F919, 1, -166050⟩, ⟨0x2F91A, 0x2F91A, 1, -165997⟩,
  ⟨0x2F91B, 0x2F91B, 1, -62454⟩, ⟨0x2F91C, 0x2F91C, 1, -165847⟩, ⟨0x2F91D, 0x2F91D, 1, -46778⟩,
  ⟨0x2F91E, 0x2F91E, 1, -165762⟩, ⟨0x2F91F, 0x2F91F, 1, -46452⟩, ⟨0x2F920, 0x2F920, 1, -165624⟩,
  ⟨0x2F921, 0x2F921, 1, -165612⟩, ⟨0x2F922, 0x2F922, 1, -165586⟩, ⟨0x2F923, 0x2F923, 1, -45851⟩,
  ⟨0x2F924, 0x2F924, 1, -165540⟩, ⟨0x2F925, 0x2F925, 1, -165520⟩, ⟨0x2F926, 0x2F926, 1, -45553⟩,
  ⟨0x2F927, 0x2F927, 1, -45331⟩, ⟨0x2F928, 0x2F928, 1, -165294⟩, ⟨0x2F929, 0x2F929, 1, -165278⟩,
  ⟨0x2F92A, 0x2F92A, 1, -178814⟩, ⟨0x2F92B, 0x2F92B, 1, -165254⟩, ⟨0x2F92C, 0x2F92C, 1, -178804⟩,
  ⟨0x2F92D, 0x2F92D, 1, -178805⟩, ⟨0x2F92E, 0x2F92E, 1, -165095⟩, ⟨0x2F92F, 0x2F92F, 1, -165075⟩,
  ⟨0x2F930, 0x2F930, 1, -165055⟩, ⟨0x2F931, 0x2F931, 1, -165036⟩, ⟨0x2F932, 0x2F932, 1, -164968⟩,
  ⟨0x2F933, 0x2F933, 1, -178712⟩, ⟨0x2F934, 0x2F934, 1, -164880⟩, ⟨0x2F935, 0x2F935, 1, -44287⟩,
  ⟨0x2F936, 0x2F936, 1, -164856⟩, ⟨0x2F937, 0x2F937, 1, -44197⟩, ⟨0x2F938, 0x2F938, 1, -164808⟩,
  ⟨0x2F939, 0x2F939, 1, -55194⟩, ⟨0x2F93A, 0x2F93A, 1, -164650⟩, ⟨0x2F93B, 0x2F93B, 1, -43418⟩,
  ⟨0x2F93C, 0x2F93C, 1, -43396⟩, ⟨0x2F93D, 0x2F93D, 1, -43257⟩, ⟨0x2F93E, 0x2F93E, 1, -178498⟩,
  ⟨0x2F93F, 0x2F93F, 1, -178487⟩, ⟨0x2F940, 0x2F940, 1, -164428⟩, ⟨0x2F941, 0x2F941, 1, -43086⟩,
  ⟨0x2F942, 0x2F942, 1, -43088⟩, ⟨0x2F943, 0x2F943, 1, -43050⟩, ⟨0x2F944, 0x2F944, 1, -43025⟩,
  ⟨0x2F945, 0x2F946, 1, -164391⟩, ⟨0x2F947, 0x2F947, 1, -164392⟩, ⟨0x2F948, 0x2F948, 1, -164350⟩,
  ⟨0x2F949, 0x2F949, 1, -178448⟩, ⟨0x2F94A, 0x2F94A, 1, -164287⟩, ⟨0x2F94B, 0x2F94B, 1, -178437⟩,
  ⟨0x2F94C, 0x2F94C, 1, -178358⟩, ⟨0x2F94D, 0x2F94D, 1, -42288⟩, ⟨0x2F94E, 0x2F94E, 1, -164096⟩,
  ⟨0x2F94F, 0x2F94F, 1, -164035⟩, ⟨0x2F950, 0x2F950, 1, -163972⟩, ⟨0x2F951, 0x2F951, 1, -178286⟩,
  ⟨0x2F952, 0x2F952, 1, -41772⟩, ⟨0x2F953, 0x2F953, 1, -163837⟩, ⟨0x2F954, 0x2F954, 1, -41658⟩,
  ⟨0x2F955, 0x2F955, 1, -41616⟩, ⟨0x2F956, 0x2F956, 1, -163783⟩, ⟨0x2F957, 0x2F957, 1, -163692⟩,
  ⟨0x2F958, 0x2F958, 1, -178217⟩, ⟨0x2F959, 0x2F959, 1, -163609⟩, ⟨0x2F95A, 0x2F95A, 1, -163600⟩,
  ⟨0x2F95B, 0x2F95B, 1, -163596⟩, ⟨0x2F95C, 0x2F95C, 1, -40928⟩, ⟨0x2F95D, 0x2F95D, 1, -40630⟩,
  ⟨0x2F95E, 0x2F95E, 1, -40631⟩, ⟨0x2F95F, 0x2F95F, 1, -163441⟩, ⟨0x2F960, 0x2F960, 1, -178014⟩,
  ⟨0x2F961, 0x2F961, 1, -40374⟩, ⟨0x2F962, 0x2F962, 1, -163228⟩, ⟨0x2F963, 0x2F963, 1, -163226⟩,
  ⟨0x2F964, 0x2F964, 1, -177981⟩, ⟨0x2F965, 0x2F965, 1, -40165⟩, ⟨0x2F966, 0x2F966, 1, -162964⟩,
  ⟨0x2F967, 0x2F967, 1, -177863⟩, ⟨0x2F968, 0x2F968, 1, -162944⟩, ⟨0x2F969, 0x2F969, 1, -162950⟩,
  ⟨0x2F96A, 0x2F96A, 1, -162922⟩, ⟨0x2F96B, 0x2F96B, 1, -39397⟩, ⟨0x2F96C, 0x2F96C, 1, -162825⟩,
  ⟨0x2F96D, 0x2F96D, 1, -177772⟩, ⟨0x2F96E, 0x2F96E, 1, -162727⟩, ⟨0x2F96F, 0x2F96F, 1, -162669⟩,
  ⟨0x2F970, 0x2F970, 1, -162603⟩, ⟨0x2F971, 0x2F971, 1, -177725⟩, ⟨0x2F972, 0x2F972, 1, -38730⟩,
  ⟨0x2F973, 0x2F973, 1, -38700⟩, ⟨0x2F974, 0x2F974, 1, -177691⟩, ⟨0x2F975, 0x2F975, 1, -38556⟩,
  ⟨0x2F976, 0x2F976, 1, -162300⟩, ⟨0x2F977, 0x2F977, 1, -38457⟩, ⟨0x2F978, 0x2F978, 1, -162275⟩,
  ⟨0x2F979, 0x2F979, 1, -162175⟩, ⟨0x2F97A, 0x2F97A, 1, -162165⟩, ⟨0x2F97B, 0x2F97B, 1, -38049⟩,
  ⟨0x2F97C, 0x2F97C, 1, -37977⟩, ⟨0x2F97D, 0x2F97D, 1, -162077⟩, ⟨0x2F97E, 0x2F97E, 1, -37846⟩,
  ⟨0x2F97F, 0x2F97F, 1, -162063⟩, ⟨0x2F980, 0x2F980, 1, -50721⟩, ⟨0x2F981, 0x2F981, 1, -177580⟩,
  ⟨0x2F982, 0x2F982, 1, -162000⟩, ⟨0x2F983, 0x2F983, 1, -161920⟩, ⟨0x2F984, 0x2F984, 1, -177529⟩,
  ⟨0x2F985, 0x2F985, 1, -161863⟩, ⟨0x2F986, 0x2F986, 1, -171729⟩, ⟨0x2F987, 0x2F987, 1, -37344⟩,
  ⟨0x2F988, 0x2F988, 1, -37331⟩, ⟨0x2F989, 0x2F989, 1, -50678⟩, ⟨0x2F98A, 0x2F98A, 1, -50670⟩,
  ⟨0x2F98B, 0x2F98B, 1, -161674⟩, ⟨0x2F98C, 0x2F98C, 1, -161672⟩, ⟨0x2F98D, 0x2F98D, 1, -158191⟩,
  ⟨0x2F98E, 0x2F98E, 1, -177443⟩, ⟨0x2F98F, 0x2F98F, 1, -161534⟩, ⟨0x2F990, 0x2F990, 1, -161541⟩,
  ⟨0x2F991, 0x2F991, 1, -161524⟩, ⟨0x2F992, 0x2F992, 1, -173791⟩, ⟨0x2F993, 0x2F993, 1, -161506⟩,
  ⟨0x2F994, 0x2F994, 1, -161505⟩, ⟨0x2F995, 0x2F995, 1, -161496⟩, ⟨0x2F996, 0x2F996, 1, -161456⟩,
  ⟨0x2F997, 0x2F997, 1, -36443⟩, ⟨0x2F998, 0x2F998, 1, -161459⟩, ⟨0x2F999, 0x2F999, 1, -161404⟩,
  ⟨0x2F99A, 0x2F99A, 1, -161335⟩, ⟨0x2F99B, 0x2F99B, 1, -161262⟩, ⟨0x2F99C, 0x2F99C, 1, -161401⟩,
  ⟨0x2F99D, 0x2F99D, 1, -161248⟩, ⟨0x2F99E, 0x2F99E, 1, -161207⟩, ⟨0x2F99F, 0x2F99F, 1, -161096⟩,
  ⟨0x2F9A0, 0x2F9A0, 1, -161357⟩, ⟨0x2F9A1, 0x2F9A1, 1, -161239⟩, ⟨0x2F9A2, 0x2F9A2, 1, -161238⟩,
  ⟨0x2F9A3, 0x2F9A3, 1, -161223⟩, ⟨0x2F9A4, 0x2F9A4, 1, -36206⟩, ⟨0x2F9A5, 0x2F9A5, 1, -35898⟩,
  ⟨0x2F9A6, 0x2F9A6, 1, -36049⟩, ⟨0x2F9A7, 0x2F9A7, 1, -177276⟩, ⟨0x2F9A8, 0x2F9A8, 1, -160951⟩,
  ⟨0x2F9A9, 0x2F9A9, 1, -160950⟩, ⟨0x2F9AA, 0x2F9AA, 1, -160916⟩, ⟨0x2F9AB, 0x2F9AB, 1, -34273⟩,
  ⟨0x2F9AC, 0x2F9AC, 1, -160840⟩, ⟨0x2F9AD, 0x2F9AD, 1, -35457⟩, ⟨0x2F9AE, 0x2F9AE, 1, -177233⟩,
  ⟨0x2F9AF, 0x2F9AF, 1, -177230⟩, ⟨0x2F9B0, 0x2F9B0, 1, -35327⟩, ⟨0x2F9B1, 0x2F9B1, 1, -35039⟩,
  ⟨0x2F9B2, 0x2F9B2, 1, -177223⟩, ⟨0x2F9B3, 0x2F9B3, 1, -160611⟩, ⟨0x2F9B4, 0x2F9B4, 1, -160600⟩,
  ⟨0x2F9B5, 0x2F9B5, 1, -160590⟩, ⟨0x2F9B6, 0x2F9B6, 1, -160589⟩, ⟨0x2F9B7, 0x2F9B7, 1, -160526⟩,
  ⟨0x2F9B8, 0x2F9B8, 1, -160560⟩, ⟨0x2F9B9, 0x2F9B9, 1, -160427⟩, ⟨0x2F9BA, 0x2F9BA, 1, -160472⟩,
  ⟨0x2F9BB, 0x2F9BB, 1, -160322⟩, ⟨0x2F9BC, 0x2F9BC, 1, -160404⟩, ⟨0x2F9BD, 0x2F9BD, 1, -160338⟩,
  ⟨0x2F9BE, 0x2F9BE, 1, -160312⟩, ⟨0x2F9BF, 0x2F9BF, 1, -177128⟩, ⟨0x2F9C0, 0x2F9C0, 1, -160223⟩,
  ⟨0x2F9C1, 0x2F9C1, 1, -160192⟩, ⟨0x2F9C2, 0x2F9C2, 1, -177097⟩, ⟨0x2F9C3, 0x2F9C3, 1, -160099⟩,
  ⟨0x2F9C4, 0x2F9C4, 1, -160097⟩, ⟨0x2F9C5, 0x2F9C5, 1, -33630⟩, ⟨0x2F9C6, 0x2F9C6, 1, -159983⟩,
  ⟨0x2F9C7, 0x2F9C7, 1, -159977⟩, ⟨0x2F9C8, 0x2F9C8, 1, -177043⟩, ⟨0x2F9C9, 0x2F9C9, 1, -159951⟩,
  ⟨0x2F9CA, 0x2F9CA, 1, -181519⟩, ⟨0x2F9CB, 0x2F9CB, 1, -33053⟩, ⟨0x2F9CC, 0x2F9CC, 1, -32870⟩,
  ⟨0x2F9CD, 0x2F9CD, 1, -176911⟩, ⟨0x2F9CE, 0x2F9CE, 1, -176903⟩, ⟨0x2F9CF, 0x2F9CF, 1, -159535⟩,
  ⟨0x2F9D0, 0x2F9D0, 1, -159459⟩, ⟨0x2F9D1, 0x2F9D1, 1, -159303⟩, ⟨0x2F9D2, 0x2F9D2, 1, -159101⟩,
  ⟨0x2F9D3, 0x2F9D3, 1, -32043⟩, ⟨0x2F9D4, 0x2F9D4, 1, -159017⟩, ⟨0x2F9D5, 0x2F9D5, 1, -158996⟩,
  ⟨0x2F9D6, 0x2F9D6, 1, -158907⟩, ⟨0x2F9D7, 0x2F9D7, 1, -158816⟩, ⟨0x2F9D8, 0x2F9D8, 1, -31401⟩,
  ⟨0x2F9D9, 0x2F9D9, 1, -61909⟩, ⟨0x2F9DA, 0x2F9DA, 1, -158735⟩, ⟨0x2F9DB, 0x2F9DB, 1, -158751⟩,
  ⟨0x2F9DC, 0x2F9DC, 1, -158700⟩, ⟨0x2F9DD, 0x2F9DD, 1, -61695⟩, ⟨0x2F9DE, 0x2F9DE, 1, -158474⟩,
  ⟨0x2F9DF, 0x2F9DF, 1, -158375⟩, ⟨0x2F9E0, 0x2F9E0, 1, -29710⟩, ⟨0x2F9E1, 0x2F9E1, 1, -29684⟩,
  ⟨0x2F9E2, 0x2F9E2, 1, -158030⟩, ⟨0x2F9E3, 0x2F9E3, 1, -157938⟩, ⟨0x2F9E4, 0x2F9E4, 1, -157907⟩,
  ⟨0x2F9E5, 0x2F9E5, 1, -29367⟩, ⟨0x2F9E6, 0x2F9E6, 1, -157899⟩, ⟨0x2F9E7, 0x2F9E7, 1, -157615⟩,
  ⟨0x2F9E8, 0x2F9E9, 1, -157457⟩, ⟨0x2F9EA, 0x2F9EA, 1, -157550⟩, ⟨0x2F9EB, 0x2F9EB, 1, -157170⟩,
  ⟨0x2F9EC, 0x2F9EC, 1, -157143⟩, ⟨0x2F9ED, 0x2F9ED, 1, -28147⟩, ⟨0x2F9EE, 0x2F9EE, 1, -156771⟩,
  ⟨0x2F9EF, 0x2F9EF, 1, -176218⟩, ⟨0x2F9F0, 0x2F9F0, 1, -156729⟩, ⟨0x2F9F1, 0x2F9F1, 1, -27770⟩,
  ⟨0x2F9F2, 0x2F9F2, 1, -176140⟩, ⟨0x2F9F3, 0x2F9F3, 1, -156464⟩, ⟨0x2F9F4, 0x2F9F4, 1, -171074⟩,
  ⟨0x2F9F5, 0x2F9F5, 1, -156370⟩, ⟨0x2F9F6, 0x2F9F6, 1, -26801⟩, ⟨0x2F9F7, 0x2F9F7, 1, -26589⟩,
  ⟨0x2F9F8, 0x2F9F8, 1, -176010⟩, ⟨0x2F9F9, 0x2F9F9, 1, -176003⟩, ⟨0x2F9FA, 0x2F9FA, 1, -156186⟩,
  ⟨0x2F9FB, 0x2F9FB, 1, -26097⟩, ⟨0x2F9FC, 0x2F9FC, 1, -175946⟩, ⟨0x2F9FD, 0x2F9FD, 1, -25959⟩,
  ⟨0x2F9FE, 0x2F9FE, 1, -156147⟩, ⟨0x2F9FF, 0x2F9FF, 1, -156148⟩, ⟨0x2FA00, 0x2FA00, 1, -156119⟩,
  ⟨0x2FA01, 0x2FA01, 1, -25675⟩, ⟨0x2FA02, 0x2FA02, 1, -155936⟩, ⟨0x2FA03, 0x2FA03, 1, -175824⟩,
  ⟨0x2FA04, 0x2FA04, 1, -155867⟩, ⟨0x2FA05, 0x2FA05, 1, -155742⟩, ⟨0x2FA06, 0x2FA06, 1, -155716⟩,
  ⟨0x2FA07, 0x2FA07, 1, -155657⟩, ⟨0x2FA08, 0x2FA08, 1, -175674⟩, ⟨0x2FA09, 0x2FA09, 1, -24281⟩,
  ⟨0x2FA0A, 0x2FA0A, 1, -155384⟩, ⟨0x2FA0B, 0x2FA0B, 1, -155083⟩, ⟨0x2FA0C, 0x2FA0C, 1, -154895⟩,
  ⟨0x2FA0D, 0x2FA0D, 1, -175423⟩, ⟨0x2FA0E, 0x2FA0E, 1, -175393⟩, ⟨0x2FA0F, 0x2FA0F, 1, -154792⟩,
  ⟨0x2FA10, 0x2FA10, 1, -22850⟩, ⟨0x2FA11, 0x2FA11, 1, -175385⟩, ⟨0x2FA12, 0x2FA12, 1, -22797⟩,
  ⟨0x2FA13, 0x2FA13, 1, -22533⟩, ⟨0x2FA14, 0x2FA14, 1, -22403⟩, ⟨0x2FA15, 0x2FA15, 1, -154458⟩,
  ⟨0x2FA16, 0x2FA16, 1, -175296⟩, ⟨0x2FA17, 0x2FA17, 1, -154398⟩, ⟨0x2FA18, 0x2FA18, 1, -154394⟩,
  ⟨0x2FA19, 0x2FA19, 1, -154388⟩, ⟨0x2FA1A, 0x2FA1A, 1, -154379⟩, ⟨0x2FA1B, 0x2FA1B, 1, -154373⟩,
  ⟨0x2FA1C, 0x2FA1C, 1, -154337⟩, ⟨0x2FA1D, 0x2FA1D, 1, -21533⟩]

/-- The characters that stand for one other character. -/
def mappedRuns : List Run :=
  mappedRunsFirst ++ mappedRunsSecond ++ mappedRunsThird ++ mappedRunsFourth

def mappedExpansionsFirst : List (Nat × List Nat) := [
  (0xA8, [0x20, 0x308]), (0xAF, [0x20, 0x304]), (0xB4, [0x20, 0x301]), (0xB8, [0x20, 0x327]),
  (0xBC, [0x31, 0x2044, 0x34]), (0xBD, [0x31, 0x2044, 0x32]), (0xBE, [0x33, 0x2044, 0x34]),
  (0x130, [0x69, 0x307]), (0x132, [0x69, 0x6A]), (0x133, [0x69, 0x6A]), (0x13F, [0x6C, 0xB7]),
  (0x140, [0x6C, 0xB7]), (0x149, [0x2BC, 0x6E]), (0x1C4, [0x64, 0x17E]), (0x1C5, [0x64, 0x17E]),
  (0x1C6, [0x64, 0x17E]), (0x1C7, [0x6C, 0x6A]), (0x1C8, [0x6C, 0x6A]), (0x1C9, [0x6C, 0x6A]),
  (0x1CA, [0x6E, 0x6A]), (0x1CB, [0x6E, 0x6A]), (0x1CC, [0x6E, 0x6A]), (0x1F1, [0x64, 0x7A]),
  (0x1F2, [0x64, 0x7A]), (0x1F3, [0x64, 0x7A]), (0x2D8, [0x20, 0x306]), (0x2D9, [0x20, 0x307]),
  (0x2DA, [0x20, 0x30A]), (0x2DB, [0x20, 0x328]), (0x2DC, [0x20, 0x303]), (0x2DD, [0x20, 0x30B]),
  (0x344, [0x308, 0x301]), (0x37A, [0x20, 0x3B9]), (0x384, [0x20, 0x301]),
  (0x385, [0x20, 0x308, 0x301]), (0x587, [0x565, 0x582]), (0x675, [0x627, 0x674]),
  (0x676, [0x648, 0x674]), (0x677, [0x6C7, 0x674]), (0x678, [0x64A, 0x674]),
  (0x958, [0x915, 0x93C]), (0x959, [0x916, 0x93C]), (0x95A, [0x917, 0x93C]),
  (0x95B, [0x91C, 0x93C]), (0x95C, [0x921, 0x93C]), (0x95D, [0x922, 0x93C]),
  (0x95E, [0x92B, 0x93C]), (0x95F, [0x92F, 0x93C]), (0x9DC, [0x9A1, 0x9BC]),
  (0x9DD, [0x9A2, 0x9BC]), (0x9DF, [0x9AF, 0x9BC]), (0xA33, [0xA32, 0xA3C]),
  (0xA36, [0xA38, 0xA3C]), (0xA59, [0xA16, 0xA3C]), (0xA5A, [0xA17, 0xA3C]),
  (0xA5B, [0xA1C, 0xA3C]), (0xA5E, [0xA2B, 0xA3C]), (0xB5C, [0xB21, 0xB3C]),
  (0xB5D, [0xB22, 0xB3C]), (0xE33, [0xE4D, 0xE32]), (0xEB3, [0xECD, 0xEB2]),
  (0xEDC, [0xEAB, 0xE99]), (0xEDD, [0xEAB, 0xEA1]), (0xF43, [0xF42, 0xFB7]),
  (0xF4D, [0xF4C, 0xFB7]), (0xF52, [0xF51, 0xFB7]), (0xF57, [0xF56, 0xFB7]),
  (0xF5C, [0xF5B, 0xFB7]), (0xF69, [0xF40, 0xFB5]), (0xF73, [0xF71, 0xF72]),
  (0xF75, [0xF71, 0xF74]), (0xF76, [0xFB2, 0xF80]), (0xF77, [0xFB2, 0xF71, 0xF80]),
  (0xF78, [0xFB3, 0xF80]), (0xF79, [0xFB3, 0xF71, 0xF80]), (0xF81, [0xF71, 0xF80]),
  (0xF93, [0xF92, 0xFB7]), (0xF9D, [0xF9C, 0xFB7]), (0xFA2, [0xFA1, 0xFB7]),
  (0xFA7, [0xFA6, 0xFB7]), (0xFAC, [0xFAB, 0xFB7]), (0xFB9, [0xF90, 0xFB5]),
  (0x1E9A, [0x61, 0x2BE]), (0x1F80, [0x1F00, 0x3B9]), (0x1F81, [0x1F01, 0x3B9]),
  (0x1F82, [0x1F02, 0x3B9]), (0x1F83, [0x1F03, 0x3B9]), (0x1F84, [0x1F04, 0x3B9]),
  (0x1F85, [0x1F05, 0x3B9]), (0x1F86, [0x1F06, 0x3B9]), (0x1F87, [0x1F07, 0x3B9]),
  (0x1F88, [0x1F00, 0x3B9]), (0x1F89, [0x1F01, 0x3B9]), (0x1F8A, [0x1F02, 0x3B9]),
  (0x1F8B, [0x1F03, 0x3B9]), (0x1F8C, [0x1F04, 0x3B9]), (0x1F8D, [0x1F05, 0x3B9]),
  (0x1F8E, [0x1F06, 0x3B9]), (0x1F8F, [0x1F07, 0x3B9]), (0x1F90, [0x1F20, 0x3B9]),
  (0x1F91, [0x1F21, 0x3B9]), (0x1F92, [0x1F22, 0x3B9]), (0x1F93, [0x1F23, 0x3B9]),
  (0x1F94, [0x1F24, 0x3B9]), (0x1F95, [0x1F25, 0x3B9]), (0x1F96, [0x1F26, 0x3B9]),
  (0x1F97, [0x1F27, 0x3B9]), (0x1F98, [0x1F20, 0x3B9]), (0x1F99, [0x1F21, 0x3B9]),
  (0x1F9A, [0x1F22, 0x3B9]), (0x1F9B, [0x1F23, 0x3B9]), (0x1F9C, [0x1F24, 0x3B9]),
  (0x1F9D, [0x1F25, 0x3B9]), (0x1F9E, [0x1F26, 0x3B9]), (0x1F9F, [0x1F27, 0x3B9]),
  (0x1FA0, [0x1F60, 0x3B9]), (0x1FA1, [0x1F61, 0x3B9]), (0x1FA2, [0x1F62, 0x3B9]),
  (0x1FA3, [0x1F63, 0x3B9]), (0x1FA4, [0x1F64, 0x3B9]), (0x1FA5, [0x1F65, 0x3B9]),
  (0x1FA6, [0x1F66, 0x3B9]), (0x1FA7, [0x1F67, 0x3B9]), (0x1FA8, [0x1F60, 0x3B9]),
  (0x1FA9, [0x1F61, 0x3B9]), (0x1FAA, [0x1F62, 0x3B9]), (0x1FAB, [0x1F63, 0x3B9]),
  (0x1FAC, [0x1F64, 0x3B9]), (0x1FAD, [0x1F65, 0x3B9]), (0x1FAE, [0x1F66, 0x3B9]),
  (0x1FAF, [0x1F67, 0x3B9]), (0x1FB2, [0x1F70, 0x3B9]), (0x1FB3, [0x3B1, 0x3B9]),
  (0x1FB4, [0x3AC, 0x3B9]), (0x1FB7, [0x1FB6, 0x3B9]), (0x1FBC, [0x3B1, 0x3B9]),
  (0x1FBD, [0x20, 0x313]), (0x1FBF, [0x20, 0x313]), (0x1FC0, [0x20, 0x342]),
  (0x1FC1, [0x20, 0x308, 0x342]), (0x1FC2, [0x1F74, 0x3B9]), (0x1FC3, [0x3B7, 0x3B9]),
  (0x1FC4, [0x3AE, 0x3B9]), (0x1FC7, [0x1FC6, 0x3B9]), (0x1FCC, [0x3B7, 0x3B9]),
  (0x1FCD, [0x20, 0x313, 0x300]), (0x1FCE, [0x20, 0x313, 0x301]), (0x1FCF, [0x20, 0x313, 0x342]),
  (0x1FDD, [0x20, 0x314, 0x300]), (0x1FDE, [0x20, 0x314, 0x301]), (0x1FDF, [0x20, 0x314, 0x342]),
  (0x1FED, [0x20, 0x308, 0x300]), (0x1FEE, [0x20, 0x308, 0x301]), (0x1FF2, [0x1F7C, 0x3B9]),
  (0x1FF3, [0x3C9, 0x3B9]), (0x1FF4, [0x3CE, 0x3B9]), (0x1FF7, [0x1FF6, 0x3B9]),
  (0x1FFC, [0x3C9, 0x3B9]), (0x1FFD, [0x20, 0x301]), (0x1FFE, [0x20, 0x314]),
  (0x2017, [0x20, 0x333]), (0x2033, [0x2032, 0x2032]), (0x2034, [0x2032, 0x2032, 0x2032]),
  (0x2036, [0x2035, 0x2035]), (0x2037, [0x2035, 0x2035, 0x2035]), (0x203C, [0x21, 0x21]),
  (0x203E, [0x20, 0x305]), (0x2047, [0x3F, 0x3F]), (0x2048, [0x3F, 0x21]), (0x2049, [0x21, 0x3F]),
  (0x2057, [0x2032, 0x2032, 0x2032, 0x2032]), (0x20A8, [0x72, 0x73]), (0x2100, [0x61, 0x2F, 0x63]),
  (0x2101, [0x61, 0x2F, 0x73]), (0x2103, [0xB0, 0x63]), (0x2105, [0x63, 0x2F, 0x6F]),
  (0x2106, [0x63, 0x2F, 0x75]), (0x2109, [0xB0, 0x66]), (0x2116, [0x6E, 0x6F]),
  (0x2120, [0x73, 0x6D]), (0x2121, [0x74, 0x65, 0x6C]), (0x2122, [0x74, 0x6D]),
  (0x213B, [0x66, 0x61, 0x78]), (0x2150, [0x31, 0x2044, 0x37]), (0x2151, [0x31, 0x2044, 0x39]),
  (0x2152, [0x31, 0x2044, 0x31, 0x30]), (0x2153, [0x31, 0x2044, 0x33]),
  (0x2154, [0x32, 0x2044, 0x33]), (0x2155, [0x31, 0x2044, 0x35]), (0x2156, [0x32, 0x2044, 0x35]),
  (0x2157, [0x33, 0x2044, 0x35]), (0x2158, [0x34, 0x2044, 0x35]), (0x2159, [0x31, 0x2044, 0x36]),
  (0x215A, [0x35, 0x2044, 0x36]), (0x215B, [0x31, 0x2044, 0x38]), (0x215C, [0x33, 0x2044, 0x38]),
  (0x215D, [0x35, 0x2044, 0x38]), (0x215E, [0x37, 0x2044, 0x38]), (0x215F, [0x31, 0x2044]),
  (0x2161, [0x69, 0x69]), (0x2162, [0x69, 0x69, 0x69]), (0x2163, [0x69, 0x76]),
  (0x2165, [0x76, 0x69]), (0x2166, [0x76, 0x69, 0x69]), (0x2167, [0x76, 0x69, 0x69, 0x69]),
  (0x2168, [0x69, 0x78]), (0x216A, [0x78, 0x69]), (0x216B, [0x78, 0x69, 0x69]),
  (0x2171, [0x69, 0x69]), (0x2172, [0x69, 0x69, 0x69]), (0x2173, [0x69, 0x76]),
  (0x2175, [0x76, 0x69]), (0x2176, [0x76, 0x69, 0x69]), (0x2177, [0x76, 0x69, 0x69, 0x69]),
  (0x2178, [0x69, 0x78]), (0x217A, [0x78, 0x69]), (0x217B, [0x78, 0x69, 0x69]),
  (0x2189, [0x30, 0x2044, 0x33]), (0x222C, [0x222B, 0x222B]), (0x222D, [0x222B, 0x222B, 0x222B]),
  (0x222F, [0x222E, 0x222E]), (0x2230, [0x222E, 0x222E, 0x222E]), (0x2469, [0x31, 0x30]),
  (0x246A, [0x31, 0x31]), (0x246B, [0x31, 0x32]), (0x246C, [0x31, 0x33]), (0x246D, [0x31, 0x34]),
  (0x246E, [0x31, 0x35]), (0x246F, [0x31, 0x36]), (0x2470, [0x31, 0x37]), (0x2471, [0x31, 0x38]),
  (0x2472, [0x31, 0x39]), (0x2473, [0x32, 0x30]), (0x2474, [0x28, 0x31, 0x29]),
  (0x2475, [0x28, 0x32, 0x29]), (0x2476, [0x28, 0x33, 0x29]), (0x2477, [0x28, 0x34, 0x29]),
  (0x2478, [0x28, 0x35, 0x29]), (0x2479, [0x28, 0x36, 0x29]), (0x247A, [0x28, 0x37, 0x29]),
  (0x247B, [0x28, 0x38, 0x29]), (0x247C, [0x28, 0x39, 0x29]), (0x247D, [0x28, 0x31, 0x30, 0x29]),
  (0x247E, [0x28, 0x31, 0x31, 0x29]), (0x247F, [0x28, 0x31, 0x32, 0x29]),
  (0x2480, [0x28, 0x31, 0x33, 0x29]), (0x2481, [0x28, 0x31, 0x34, 0x29]),
  (0x2482, [0x28, 0x31, 0x35, 0x29]), (0x2483, [0x28, 0x31, 0x36, 0x29]),
  (0x2484, [0x28, 0x31, 0x37, 0x29]), (0x2485, [0x28, 0x31, 0x38, 0x29]),
  (0x2486, [0x28, 0x31, 0x39, 0x29]), (0x2487, [0x28, 0x32, 0x30, 0x29]),
  (0x249C, [0x28, 0x61, 0x29]), (0x249D, [0x28, 0x62, 0x29]), (0x249E, [0x28, 0x63, 0x29]),
  (0x249F, [0x28, 0x64, 0x29]), (0x24A0, [0x28, 0x65, 0x29]), (0x24A1, [0x28, 0x66, 0x29]),
  (0x24A2, [0x28, 0x67, 0x29]), (0x24A3, [0x28, 0x68, 0x29]), (0x24A4, [0x28, 0x69, 0x29]),
  (0x24A5, [0x28, 0x6A, 0x29]), (0x24A6, [0x28, 0x6B, 0x29]), (0x24A7, [0x28, 0x6C, 0x29]),
  (0x24A8, [0x28, 0x6D, 0x29]), (0x24A9, [0x28, 0x6E, 0x29]), (0x24AA, [0x28, 0x6F, 0x29]),
  (0x24AB, [0x28, 0x70, 0x29]), (0x24AC, [0x28, 0x71, 0x29]), (0x24AD, [0x28, 0x72, 0x29]),
  (0x24AE, [0x28, 0x73, 0x29]), (0x24AF, [0x28, 0x74, 0x29]), (0x24B0, [0x28, 0x75, 0x29]),
  (0x24B1, [0x28, 0x76, 0x29]), (0x24B2, [0x28, 0x77, 0x29]), (0x24B3, [0x28, 0x78, 0x29]),
  (0x24B4, [0x28, 0x79, 0x29]), (0x24B5, [0x28, 0x7A, 0x29]),
  (0x2A0C, [0x222B, 0x222B, 0x222B, 0x222B]), (0x2A74, [0x3A, 0x3A, 0x3D]), (0x2A75, [0x3D, 0x3D]),
  (0x2A76, [0x3D, 0x3D, 0x3D]), (0x2ADC, [0x2ADD, 0x338]), (0x309B, [0x20, 0x3099]),
  (0x309C, [0x20, 0x309A]), (0x309F, [0x3088, 0x308A]), (0x30FF, [0x30B3, 0x30C8]),
  (0x3200, [0x28, 0x1100, 0x29]), (0x3201, [0x28, 0x1102, 0x29]), (0x3202, [0x28, 0x1103, 0x29]),
  (0x3203, [0x28, 0x1105, 0x29]), (0x3204, [0x28, 0x1106, 0x29]), (0x3205, [0x28, 0x1107, 0x29]),
  (0x3206, [0x28, 0x1109, 0x29]), (0x3207, [0x28, 0x110B, 0x29]), (0x3208, [0x28, 0x110C, 0x29]),
  (0x3209, [0x28, 0x110E, 0x29]), (0x320A, [0x28, 0x110F, 0x29]), (0x320B, [0x28, 0x1110, 0x29]),
  (0x320C, [0x28, 0x1111, 0x29]), (0x320D, [0x28, 0x1112, 0x29]), (0x320E, [0x28, 0xAC00, 0x29]),
  (0x320F, [0x28, 0xB098, 0x29]), (0x3210, [0x28, 0xB2E4, 0x29]), (0x3211, [0x28, 0xB77C, 0x29]),
  (0x3212, [0x28, 0xB9C8, 0x29]), (0x3213, [0x28, 0xBC14, 0x29]), (0x3214, [0x28, 0xC0AC, 0x29]),
  (0x3215, [0x28, 0xC544, 0x29]), (0x3216, [0x28, 0xC790, 0x29]), (0x3217, [0x28, 0xCC28, 0x29]),
  (0x3218, [0x28, 0xCE74, 0x29]), (0x3219, [0x28, 0xD0C0, 0x29]), (0x321A, [0x28, 0xD30C, 0x29]),
  (0x321B, [0x28, 0xD558, 0x29]), (0x321C, [0x28, 0xC8FC, 0x29]),
  (0x321D, [0x28, 0xC624, 0xC804, 0x29]), (0x321E, [0x28, 0xC624, 0xD6C4, 0x29]),
  (0x3220, [0x28, 0x4E00, 0x29]), (0x3221, [0x28, 0x4E8C, 0x29]), (0x3222, [0x28, 0x4E09, 0x29]),
  (0x3223, [0x28, 0x56DB, 0x29]), (0x3224, [0x28, 0x4E94, 0x29]), (0x3225, [0x28, 0x516D, 0x29]),
  (0x3226, [0x28, 0x4E03, 0x29]), (0x3227, [0x28, 0x516B, 0x29]), (0x3228, [0x28, 0x4E5D, 0x29]),
  (0x3229, [0x28, 0x5341, 0x29]), (0x322A, [0x28, 0x6708, 0x29]), (0x322B, [0x28, 0x706B, 0x29]),
  (0x322C, [0x28, 0x6C34, 0x29]), (0x322D, [0x28, 0x6728, 0x29]), (0x322E, [0x28, 0x91D1, 0x29]),
  (0x322F, [0x28, 0x571F, 0x29]), (0x3230, [0x28, 0x65E5, 0x29]), (0x3231, [0x28, 0x682A, 0x29]),
  (0x3232, [0x28, 0x6709, 0x29]), (0x3233, [0x28, 0x793E, 0x29]), (0x3234, [0x28, 0x540D, 0x29]),
  (0x3235, [0x28, 0x7279, 0x29]), (0x3236, [0x28, 0x8CA1, 0x29]), (0x3237, [0x28, 0x795D, 0x29]),
  (0x3238, [0x28, 0x52B4, 0x29]), (0x3239, [0x28, 0x4EE3, 0x29]), (0x323A, [0x28, 0x547C, 0x29]),
  (0x323B, [0x28, 0x5B66, 0x29]), (0x323C, [0x28, 0x76E3, 0x29]), (0x323D, [0x28, 0x4F01, 0x29]),
  (0x323E, [0x28, 0x8CC7, 0x29]), (0x323F, [0x28, 0x5354, 0x29]), (0x3240, [0x28, 0x796D, 0x29]),
  (0x3241, [0x28, 0x4F11, 0x29]), (0x3242, [0x28, 0x81EA, 0x29]), (0x3243, [0x28, 0x81F3, 0x29]),
  (0x3250, [0x70, 0x74, 0x65]), (0x3251, [0x32, 0x31]), (0x3252, [0x32, 0x32]),
  (0x3253, [0x32, 0x33]), (0x3254, [0x32, 0x34]), (0x3255, [0x32, 0x35]), (0x3256, [0x32, 0x36]),
  (0x3257, [0x32, 0x37]), (0x3258, [0x32, 0x38]), (0x3259, [0x32, 0x39]), (0x325A, [0x33, 0x30]),
  (0x325B, [0x33, 0x31]), (0x325C, [0x33, 0x32]), (0x325D, [0x33, 0x33]), (0x325E, [0x33, 0x34]),
  (0x325F, [0x33, 0x35]), (0x327C, [0xCC38, 0xACE0]), (0x327D, [0xC8FC, 0xC758]),
  (0x32B1, [0x33, 0x36]), (0x32B2, [0x33, 0x37]), (0x32B3, [0x33, 0x38]), (0x32B4, [0x33, 0x39]),
  (0x32B5, [0x34, 0x30]), (0x32B6, [0x34, 0x31]), (0x32B7, [0x34, 0x32]), (0x32B8, [0x34, 0x33]),
  (0x32B9, [0x34, 0x34]), (0x32BA, [0x34, 0x35]), (0x32BB, [0x34, 0x36]), (0x32BC, [0x34, 0x37]),
  (0x32BD, [0x34, 0x38]), (0x32BE, [0x34, 0x39]), (0x32BF, [0x35, 0x30]), (0x32C0, [0x31, 0x6708]),
  (0x32C1, [0x32, 0x6708]), (0x32C2, [0x33, 0x6708]), (0x32C3, [0x34, 0x6708]),
  (0x32C4, [0x35, 0x6708]), (0x32C5, [0x36, 0x6708]), (0x32C6, [0x37, 0x6708]),
  (0x32C7, [0x38, 0x6708]), (0x32C8, [0x39, 0x6708]), (0x32C9, [0x31, 0x30, 0x6708]),
  (0x32CA, [0x31, 0x31, 0x6708]), (0x32CB, [0x31, 0x32, 0x6708]), (0x32CC, [0x68, 0x67]),
  (0x32CD, [0x65, 0x72, 0x67]), (0x32CE, [0x65, 0x76]), (0x32CF, [0x6C, 0x74, 0x64]),
  (0x32FF, [0x4EE4, 0x548C]), (0x3300, [0x30A2, 0x30D1, 0x30FC, 0x30C8]),
  (0x3301, [0x30A2, 0x30EB, 0x30D5, 0x30A1]), (0x3302, [0x30A2, 0x30F3, 0x30DA, 0x30A2]),
  (0x3303, [0x30A2, 0x30FC, 0x30EB]), (0x3304, [0x30A4, 0x30CB, 0x30F3, 0x30B0]),
  (0x3305, [0x30A4, 0x30F3, 0x30C1]), (0x3306, [0x30A6, 0x30A9, 0x30F3]),
  (0x3307, [0x30A8, 0x30B9, 0x30AF, 0x30FC, 0x30C9]), (0x3308, [0x30A8, 0x30FC, 0x30AB, 0x30FC]),
  (0x3309, [0x30AA, 0x30F3, 0x30B9]), (0x330A, [0x30AA, 0x30FC, 0x30E0]),
  (0x330B, [0x30AB, 0x30A4, 0x30EA]), (0x330C, [0x30AB, 0x30E9, 0x30C3, 0x30C8]),
  (0x330D, [0x30AB, 0x30ED, 0x30EA, 0x30FC]), (0x330E, [0x30AC, 0x30ED, 0x30F3]),
  (0x330F, [0x30AC, 0x30F3, 0x30DE]), (0x3310, [0x30AE, 0x30AC]),
  (0x3311, [0x30AE, 0x30CB, 0x30FC]), (0x3312, [0x30AD, 0x30E5, 0x30EA, 0x30FC]),
  (0x3313, [0x30AE, 0x30EB, 0x30C0, 0x30FC]), (0x3314, [0x30AD, 0x30ED]),
  (0x3315, [0x30AD, 0x30ED, 0x30B0, 0x30E9, 0x30E0]),
  (0x3316, [0x30AD, 0x30ED, 0x30E1, 0x30FC, 0x30C8, 0x30EB]),
  (0x3317, [0x30AD, 0x30ED, 0x30EF, 0x30C3, 0x30C8]), (0x3318, [0x30B0, 0x30E9, 0x30E0]),
  (0x3319, [0x30B0, 0x30E9, 0x30E0, 0x30C8, 0x30F3]),
  (0x331A, [0x30AF, 0x30EB, 0x30BC, 0x30A4, 0x30ED]), (0x331B, [0x30AF, 0x30ED, 0x30FC, 0x30CD]),
  (0x331C, [0x30B1, 0x30FC, 0x30B9]), (0x331D, [0x30B3, 0x30EB, 0x30CA]),
  (0x331E, [0x30B3, 0x30FC, 0x30DD]), (0x331F, [0x30B5, 0x30A4, 0x30AF, 0x30EB]),
  (0x3320, [0x30B5, 0x30F3, 0x30C1, 0x30FC, 0x30E0]), (0x3321, [0x30B7, 0x30EA, 0x30F3, 0x30B0]),
  (0x3322, [0x30BB, 0x30F3, 0x30C1]), (0x3323, [0x30BB, 0x30F3, 0x30C8]),
  (0x3324, [0x30C0, 0x30FC, 0x30B9]), (0x3325, [0x30C7, 0x30B7]), (0x3326, [0x30C9, 0x30EB]),
  (0x3327, [0x30C8, 0x30F3]), (0x3328, [0x30CA, 0x30CE]), (0x3329, [0x30CE, 0x30C3, 0x30C8]),
  (0x332A, [0x30CF, 0x30A4, 0x30C4]), (0x332B, [0x30D1, 0x30FC, 0x30BB, 0x30F3, 0x30C8]),
  (0x332C, [0x30D1, 0x30FC, 0x30C4]), (0x332D, [0x30D0, 0x30FC, 0x30EC, 0x30EB]),
  (0x332E, [0x30D4, 0x30A2, 0x30B9, 0x30C8, 0x30EB]), (0x332F, [0x30D4, 0x30AF, 0x30EB]),
  (0x3330, [0x30D4, 0x30B3]), (0x3331, [0x30D3, 0x30EB]),
  (0x3332, [0x30D5, 0x30A1, 0x30E9, 0x30C3, 0x30C9]), (0x3333, [0x30D5, 0x30A3, 0x30FC, 0x30C8]),
  (0x3334, [0x30D6, 0x30C3, 0x30B7, 0x30A7, 0x30EB]), (0x3335, [0x30D5, 0x30E9, 0x30F3]),
  (0x3336, [0x30D8, 0x30AF, 0x30BF, 0x30FC, 0x30EB]), (0x3337, [0x30DA, 0x30BD]),
  (0x3338, [0x30DA, 0x30CB, 0x30D2]), (0x3339, [0x30D8, 0x30EB, 0x30C4]),
  (0x333A, [0x30DA, 0x30F3, 0x30B9]), (0x333B, [0x30DA, 0x30FC, 0x30B8]),
  (0x333C, [0x30D9, 0x30FC, 0x30BF]), (0x333D, [0x30DD, 0x30A4, 0x30F3, 0x30C8]),
  (0x333E, [0x30DC, 0x30EB, 0x30C8]), (0x333F, [0x30DB, 0x30F3]),
  (0x3340, [0x30DD, 0x30F3, 0x30C9]), (0x3341, [0x30DB, 0x30FC, 0x30EB]),
  (0x3342, [0x30DB, 0x30FC, 0x30F3]), (0x3343, [0x30DE, 0x30A4, 0x30AF, 0x30ED]),
  (0x3344, [0x30DE, 0x30A4, 0x30EB]), (0x3345, [0x30DE, 0x30C3, 0x30CF]),
  (0x3346, [0x30DE, 0x30EB, 0x30AF]), (0x3347, [0x30DE, 0x30F3, 0x30B7, 0x30E7, 0x30F3]),
  (0x3348, [0x30DF, 0x30AF, 0x30ED, 0x30F3]), (0x3349, [0x30DF, 0x30EA]),
  (0x334A, [0x30DF, 0x30EA, 0x30D0, 0x30FC, 0x30EB]), (0x334B, [0x30E1, 0x30AC]),
  (0x334C, [0x30E1, 0x30AC, 0x30C8, 0x30F3]), (0x334D, [0x30E1, 0x30FC, 0x30C8, 0x30EB]),
  (0x334E, [0x30E4, 0x30FC, 0x30C9]), (0x334F, [0x30E4, 0x30FC, 0x30EB]),
  (0x3350, [0x30E6, 0x30A2, 0x30F3]), (0x3351, [0x30EA, 0x30C3, 0x30C8, 0x30EB]),
  (0x3352, [0x30EA, 0x30E9]), (0x3353, [0x30EB, 0x30D4, 0x30FC]),
  (0x3354, [0x30EB, 0x30FC, 0x30D6, 0x30EB]), (0x3355, [0x30EC, 0x30E0]),
  (0x3356, [0x30EC, 0x30F3, 0x30C8, 0x30B2, 0x30F3]), (0x3357, [0x30EF, 0x30C3, 0x30C8]),
  (0x3358, [0x30, 0x70B9]), (0x3359, [0x31, 0x70B9]), (0x335A, [0x32, 0x70B9]),
  (0x335B, [0x33, 0x70B9]), (0x335C, [0x34, 0x70B9]), (0x335D, [0x35, 0x70B9]),
  (0x335E, [0x36, 0x70B9]), (0x335F, [0x37, 0x70B9]), (0x3360, [0x38, 0x70B9]),
  (0x3361, [0x39, 0x70B9]), (0x3362, [0x31, 0x30, 0x70B9]), (0x3363, [0x31, 0x31, 0x70B9]),
  (0x3364, [0x31, 0x32, 0x70B9]), (0x3365, [0x31, 0x33, 0x70B9]), (0x3366, [0x31, 0x34, 0x70B9]),
  (0x3367, [0x31, 0x35, 0x70B9]), (0x3368, [0x31, 0x36, 0x70B9]), (0x3369, [0x31, 0x37, 0x70B9]),
  (0x336A, [0x31, 0x38, 0x70B9]), (0x336B, [0x31, 0x39, 0x70B9]), (0x336C, [0x32, 0x30, 0x70B9]),
  (0x336D, [0x32, 0x31, 0x70B9]), (0x336E, [0x32, 0x32, 0x70B9]), (0x336F, [0x32, 0x33, 0x70B9]),
  (0x3370, [0x32, 0x34, 0x70B9]), (0x3371, [0x68, 0x70, 0x61]), (0x3372, [0x64, 0x61]),
  (0x3373, [0x61, 0x75]), (0x3374, [0x62, 0x61, 0x72]), (0x3375, [0x6F, 0x76]),
  (0x3376, [0x70, 0x63]), (0x3377, [0x64, 0x6D]), (0x3378, [0x64, 0x6D, 0x32]),
  (0x3379, [0x64, 0x6D, 0x33]), (0x337A, [0x69, 0x75]), (0x337B, [0x5E73, 0x6210]),
  (0x337C, [0x662D, 0x548C]), (0x337D, [0x5927, 0x6B63]), (0x337E, [0x660E, 0x6CBB]),
  (0x337F, [0x682A, 0x5F0F, 0x4F1A, 0x793E]), (0x3380, [0x70, 0x61]), (0x3381, [0x6E, 0x61]),
  (0x3382, [0x3BC, 0x61]), (0x3383, [0x6D, 0x61]), (0x3384, [0x6B, 0x61]), (0x3385, [0x6B, 0x62]),
  (0x3386, [0x6D, 0x62]), (0x3387, [0x67, 0x62]), (0x3388, [0x63, 0x61, 0x6C]),
  (0x3389, [0x6B, 0x63, 0x61, 0x6C]), (0x338A, [0x70, 0x66]), (0x338B, [0x6E, 0x66]),
  (0x338C, [0x3BC, 0x66]), (0x338D, [0x3BC, 0x67]), (0x338E, [0x6D, 0x67]), (0x338F, [0x6B, 0x67]),
  (0x3390, [0x68, 0x7A]), (0x3391, [0x6B, 0x68, 0x7A]), (0x3392, [0x6D, 0x68, 0x7A]),
  (0x3393, [0x67, 0x68, 0x7A]), (0x3394, [0x74, 0x68, 0x7A]), (0x3395, [0x3BC, 0x6C]),
  (0x3396, [0x6D, 0x6C]), (0x3397, [0x64, 0x6C]), (0x3398, [0x6B, 0x6C]), (0x3399, [0x66, 0x6D]),
  (0x339A, [0x6E, 0x6D]), (0x339B, [0x3BC, 0x6D]), (0x339C, [0x6D, 0x6D]), (0x339D, [0x63, 0x6D]),
  (0x339E, [0x6B, 0x6D]), (0x339F, [0x6D, 0x6D, 0x32]), (0x33A0, [0x63, 0x6D, 0x32]),
  (0x33A1, [0x6D, 0x32]), (0x33A2, [0x6B, 0x6D, 0x32]), (0x33A3, [0x6D, 0x6D, 0x33]),
  (0x33A4, [0x63, 0x6D, 0x33]), (0x33A5, [0x6D, 0x33]), (0x33A6, [0x6B, 0x6D, 0x33]),
  (0x33A7, [0x6D, 0x2215, 0x73]), (0x33A8, [0x6D, 0x2215, 0x73, 0x32]), (0x33A9, [0x70, 0x61]),
  (0x33AA, [0x6B, 0x70, 0x61]), (0x33AB, [0x6D, 0x70, 0x61]), (0x33AC, [0x67, 0x70, 0x61]),
  (0x33AD, [0x72, 0x61, 0x64]), (0x33AE, [0x72, 0x61, 0x64, 0x2215, 0x73]),
  (0x33AF, [0x72, 0x61, 0x64, 0x2215, 0x73, 0x32]), (0x33B0, [0x70, 0x73]), (0x33B1, [0x6E, 0x73]),
  (0x33B2, [0x3BC, 0x73]), (0x33B3, [0x6D, 0x73]), (0x33B4, [0x70, 0x76]), (0x33B5, [0x6E, 0x76]),
  (0x33B6, [0x3BC, 0x76]), (0x33B7, [0x6D, 0x76]), (0x33B8, [0x6B, 0x76]), (0x33B9, [0x6D, 0x76]),
  (0x33BA, [0x70, 0x77]), (0x33BB, [0x6E, 0x77]), (0x33BC, [0x3BC, 0x77]), (0x33BD, [0x6D, 0x77]),
  (0x33BE, [0x6B, 0x77]), (0x33BF, [0x6D, 0x77]), (0x33C0, [0x6B, 0x3C9]), (0x33C1, [0x6D, 0x3C9]),
  (0x33C3, [0x62, 0x71]), (0x33C4, [0x63, 0x63]), (0x33C5, [0x63, 0x64]),
  (0x33C6, [0x63, 0x2215, 0x6B, 0x67]), (0x33C8, [0x64, 0x62]), (0x33C9, [0x67, 0x79]),
  (0x33CA, [0x68, 0x61]), (0x33CB, [0x68, 0x70]), (0x33CC, [0x69, 0x6E]), (0x33CD, [0x6B, 0x6B]),
  (0x33CE, [0x6B, 0x6D]), (0x33CF, [0x6B, 0x74]), (0x33D0, [0x6C, 0x6D]), (0x33D1, [0x6C, 0x6E]),
  (0x33D2, [0x6C, 0x6F, 0x67]), (0x33D3, [0x6C, 0x78]), (0x33D4, [0x6D, 0x62]),
  (0x33D5, [0x6D, 0x69, 0x6C]), (0x33D6, [0x6D, 0x6F, 0x6C]), (0x33D7, [0x70, 0x68]),
  (0x33D9, [0x70, 0x70, 0x6D]), (0x33DA, [0x70, 0x72]), (0x33DB, [0x73, 0x72]),
  (0x33DC, [0x73, 0x76]), (0x33DD, [0x77, 0x62]), (0x33DE, [0x76, 0x2215, 0x6D]),
  (0x33DF, [0x61, 0x2215, 0x6D]), (0x33E0, [0x31, 0x65E5]), (0x33E1, [0x32, 0x65E5]),
  (0x33E2, [0x33, 0x65E5]), (0x33E3, [0x34, 0x65E5]), (0x33E4, [0x35, 0x65E5]),
  (0x33E5, [0x36, 0x65E5]), (0x33E6, [0x37, 0x65E5]), (0x33E7, [0x38, 0x65E5]),
  (0x33E8, [0x39, 0x65E5]), (0x33E9, [0x31, 0x30, 0x65E5]), (0x33EA, [0x31, 0x31, 0x65E5]),
  (0x33EB, [0x31, 0x32, 0x65E5]), (0x33EC, [0x31, 0x33, 0x65E5]), (0x33ED, [0x31, 0x34, 0x65E5]),
  (0x33EE, [0x31, 0x35, 0x65E5]), (0x33EF, [0x31, 0x36, 0x65E5]), (0x33F0, [0x31, 0x37, 0x65E5]),
  (0x33F1, [0x31, 0x38, 0x65E5]), (0x33F2, [0x31, 0x39, 0x65E5]), (0x33F3, [0x32, 0x30, 0x65E5]),
  (0x33F4, [0x32, 0x31, 0x65E5]), (0x33F5, [0x32, 0x32, 0x65E5]), (0x33F6, [0x32, 0x33, 0x65E5]),
  (0x33F7, [0x32, 0x34, 0x65E5]), (0x33F8, [0x32, 0x35, 0x65E5]), (0x33F9, [0x32, 0x36, 0x65E5]),
  (0x33FA, [0x32, 0x37, 0x65E5]), (0x33FB, [0x32, 0x38, 0x65E5]), (0x33FC, [0x32, 0x39, 0x65E5]),
  (0x33FD, [0x33, 0x30, 0x65E5]), (0x33FE, [0x33, 0x31, 0x65E5]), (0x33FF, [0x67, 0x61, 0x6C]),
  (0xFB00, [0x66, 0x66]), (0xFB01, [0x66, 0x69]), (0xFB02, [0x66, 0x6C]),
  (0xFB03, [0x66, 0x66, 0x69]), (0xFB04, [0x66, 0x66, 0x6C]), (0xFB05, [0x73, 0x74]),
  (0xFB06, [0x73, 0x74]), (0xFB13, [0x574, 0x576]), (0xFB14, [0x574, 0x565]),
  (0xFB15, [0x574, 0x56B]), (0xFB16, [0x57E, 0x576]), (0xFB17, [0x574, 0x56D]),
  (0xFB1D, [0x5D9, 0x5B4]), (0xFB1F, [0x5F2, 0x5B7]), (0xFB2A, [0x5E9, 0x5C1]),
  (0xFB2B, [0x5E9, 0x5C2]), (0xFB2C, [0x5E9, 0x5BC, 0x5C1]), (0xFB2D, [0x5E9, 0x5BC, 0x5C2]),
  (0xFB2E, [0x5D0, 0x5B7]), (0xFB2F, [0x5D0, 0x5B8]), (0xFB30, [0x5D0, 0x5BC]),
  (0xFB31, [0x5D1, 0x5BC]), (0xFB32, [0x5D2, 0x5BC]), (0xFB33, [0x5D3, 0x5BC]),
  (0xFB34, [0x5D4, 0x5BC]), (0xFB35, [0x5D5, 0x5BC]), (0xFB36, [0x5D6, 0x5BC]),
  (0xFB38, [0x5D8, 0x5BC]), (0xFB39, [0x5D9, 0x5BC]), (0xFB3A, [0x5DA, 0x5BC]),
  (0xFB3B, [0x5DB, 0x5BC]), (0xFB3C, [0x5DC, 0x5BC]), (0xFB3E, [0x5DE, 0x5BC]),
  (0xFB40, [0x5E0, 0x5BC]), (0xFB41, [0x5E1, 0x5BC]), (0xFB43, [0x5E3, 0x5BC]),
  (0xFB44, [0x5E4, 0x5BC]), (0xFB46, [0x5E6, 0x5BC]), (0xFB47, [0x5E7, 0x5BC]),
  (0xFB48, [0x5E8, 0x5BC]), (0xFB49, [0x5E9, 0x5BC]), (0xFB4A, [0x5EA, 0x5BC])]

def mappedExpansionsSecond : List (Nat × List Nat) := [
  (0xFB4B, [0x5D5, 0x5B9]), (0xFB4C, [0x5D1, 0x5BF]), (0xFB4D, [0x5DB, 0x5BF]),
  (0xFB4E, [0x5E4, 0x5BF]), (0xFB4F, [0x5D0, 0x5DC]), (0xFBDD, [0x6C7, 0x674]),
  (0xFBEA, [0x626, 0x627]), (0xFBEB, [0x626, 0x627]), (0xFBEC, [0x626, 0x6D5]),
  (0xFBED, [0x626, 0x6D5]), (0xFBEE, [0x626, 0x648]), (0xFBEF, [0x626, 0x648]),
  (0xFBF0, [0x626, 0x6C7]), (0xFBF1, [0x626, 0x6C7]), (0xFBF2, [0x626, 0x6C6]),
  (0xFBF3, [0x626, 0x6C6]), (0xFBF4, [0x626, 0x6C8]), (0xFBF5, [0x626, 0x6C8]),
  (0xFBF6, [0x626, 0x6D0]), (0xFBF7, [0x626, 0x6D0]), (0xFBF8, [0x626, 0x6D0]),
  (0xFBF9, [0x626, 0x649]), (0xFBFA, [0x626, 0x649]), (0xFBFB, [0x626, 0x649]),
  (0xFC00, [0x626, 0x62C]), (0xFC01, [0x626, 0x62D]), (0xFC02, [0x626, 0x645]),
  (0xFC03, [0x626, 0x649]), (0xFC04, [0x626, 0x64A]), (0xFC05, [0x628, 0x62C]),
  (0xFC06, [0x628, 0x62D]), (0xFC07, [0x628, 0x62E]), (0xFC08, [0x628, 0x645]),
  (0xFC09, [0x628, 0x649]), (0xFC0A, [0x628, 0x64A]), (0xFC0B, [0x62A, 0x62C]),
  (0xFC0C, [0x62A, 0x62D]), (0xFC0D, [0x62A, 0x62E]), (0xFC0E, [0x62A, 0x645]),
  (0xFC0F, [0x62A, 0x649]), (0xFC10, [0x62A, 0x64A]), (0xFC11, [0x62B, 0x62C]),
  (0xFC12, [0x62B, 0x645]), (0xFC13, [0x62B, 0x649]), (0xFC14, [0x62B, 0x64A]),
  (0xFC15, [0x62C, 0x62D]), (0xFC16, [0x62C, 0x645]), (0xFC17, [0x62D, 0x62C]),
  (0xFC18, [0x62D, 0x645]), (0xFC19, [0x62E, 0x62C]), (0xFC1A, [0x62E, 0x62D]),
  (0xFC1B, [0x62E, 0x645]), (0xFC1C, [0x633, 0x62C]), (0xFC1D, [0x633, 0x62D]),
  (0xFC1E, [0x633, 0x62E]), (0xFC1F, [0x633, 0x645]), (0xFC20, [0x635, 0x62D]),
  (0xFC21, [0x635, 0x645]), (0xFC22, [0x636, 0x62C]), (0xFC23, [0x636, 0x62D]),
  (0xFC24, [0x636, 0x62E]), (0xFC25, [0x636, 0x645]), (0xFC26, [0x637, 0x62D]),
  (0xFC27, [0x637, 0x645]), (0xFC28, [0x638, 0x645]), (0xFC29, [0x639, 0x62C]),
  (0xFC2A, [0x639, 0x645]), (0xFC2B, [0x63A, 0x62C]), (0xFC2C, [0x63A, 0x645]),
  (0xFC2D, [0x641, 0x62C]), (0xFC2E, [0x641, 0x62D]), (0xFC2F, [0x641, 0x62E]),
  (0xFC30, [0x641, 0x645]), (0xFC31, [0x641, 0x649]), (0xFC32, [0x641, 0x64A]),
  (0xFC33, [0x642, 0x62D]), (0xFC34, [0x642, 0x645]), (0xFC35, [0x642, 0x649]),
  (0xFC36, [0x642, 0x64A]), (0xFC37, [0x643, 0x627]), (0xFC38, [0x643, 0x62C]),
  (0xFC39, [0x643, 0x62D]), (0xFC3A, [0x643, 0x62E]), (0xFC3B, [0x643, 0x644]),
  (0xFC3C, [0x643, 0x645]), (0xFC3D, [0x643, 0x649]), (0xFC3E, [0x643, 0x64A]),
  (0xFC3F, [0x644, 0x62C]), (0xFC40, [0x644, 0x62D]), (0xFC41, [0x644, 0x62E]),
  (0xFC42, [0x644, 0x645]), (0xFC43, [0x644, 0x649]), (0xFC44, [0x644, 0x64A]),
  (0xFC45, [0x645, 0x62C]), (0xFC46, [0x645, 0x62D]), (0xFC47, [0x645, 0x62E]),
  (0xFC48, [0x645, 0x645]), (0xFC49, [0x645, 0x649]), (0xFC4A, [0x645, 0x64A]),
  (0xFC4B, [0x646, 0x62C]), (0xFC4C, [0x646, 0x62D]), (0xFC4D, [0x646, 0x62E]),
  (0xFC4E, [0x646, 0x645]), (0xFC4F, [0x646, 0x649]), (0xFC50, [0x646, 0x64A]),
  (0xFC51, [0x647, 0x62C]), (0xFC52, [0x647, 0x645]), (0xFC53, [0x647, 0x649]),
  (0xFC54, [0x647, 0x64A]), (0xFC55, [0x64A, 0x62C]), (0xFC56, [0x64A, 0x62D]),
  (0xFC57, [0x64A, 0x62E]), (0xFC58, [0x64A, 0x645]), (0xFC59, [0x64A, 0x649]),
  (0xFC5A, [0x64A, 0x64A]), (0xFC5B, [0x630, 0x670]), (0xFC5C, [0x631, 0x670]),
  (0xFC5D, [0x649, 0x670]), (0xFC5E, [0x20, 0x64C, 0x651]), (0xFC5F, [0x20, 0x64D, 0x651]),
  (0xFC60, [0x20, 0x64E, 0x651]), (0xFC61, [0x20, 0x64F, 0x651]), (0xFC62, [0x20, 0x650, 0x651]),
  (0xFC63, [0x20, 0x651, 0x670]), (0xFC64, [0x626, 0x631]), (0xFC65, [0x626, 0x632]),
  (0xFC66, [0x626, 0x645]), (0xFC67, [0x626, 0x646]), (0xFC68, [0x626, 0x649]),
  (0xFC69, [0x626, 0x64A]), (0xFC6A, [0x628, 0x631]), (0xFC6B, [0x628, 0x632]),
  (0xFC6C, [0x628, 0x645]), (0xFC6D, [0x628, 0x646]), (0xFC6E, [0x628, 0x649]),
  (0xFC6F, [0x628, 0x64A]), (0xFC70, [0x62A, 0x631]), (0xFC71, [0x62A, 0x632]),
  (0xFC72, [0x62A, 0x645]), (0xFC73, [0x62A, 0x646]), (0xFC74, [0x62A, 0x649]),
  (0xFC75, [0x62A, 0x64A]), (0xFC76, [0x62B, 0x631]), (0xFC77, [0x62B, 0x632]),
  (0xFC78, [0x62B, 0x645]), (0xFC79, [0x62B, 0x646]), (0xFC7A, [0x62B, 0x649]),
  (0xFC7B, [0x62B, 0x64A]), (0xFC7C, [0x641, 0x649]), (0xFC7D, [0x641, 0x64A]),
  (0xFC7E, [0x642, 0x649]), (0xFC7F, [0x642, 0x64A]), (0xFC80, [0x643, 0x627]),
  (0xFC81, [0x643, 0x644]), (0xFC82, [0x643, 0x645]), (0xFC83, [0x643, 0x649]),
  (0xFC84, [0x643, 0x64A]), (0xFC85, [0x644, 0x645]), (0xFC86, [0x644, 0x649]),
  (0xFC87, [0x644, 0x64A]), (0xFC88, [0x645, 0x627]), (0xFC89, [0x645, 0x645]),
  (0xFC8A, [0x646, 0x631]), (0xFC8B, [0x646, 0x632]), (0xFC8C, [0x646, 0x645]),
  (0xFC8D, [0x646, 0x646]), (0xFC8E, [0x646, 0x649]), (0xFC8F, [0x646, 0x64A]),
  (0xFC90, [0x649, 0x670]), (0xFC91, [0x64A, 0x631]), (0xFC92, [0x64A, 0x632]),
  (0xFC93, [0x64A, 0x645]), (0xFC94, [0x64A, 0x646]), (0xFC95, [0x64A, 0x649]),
  (0xFC96, [0x64A, 0x64A]), (0xFC97, [0x626, 0x62C]), (0xFC98, [0x626, 0x62D]),
  (0xFC99, [0x626, 0x62E]), (0xFC9A, [0x626, 0x645]), (0xFC9B, [0x626, 0x647]),
  (0xFC9C, [0x628, 0x62C]), (0xFC9D, [0x628, 0x62D]), (0xFC9E, [0x628, 0x62E]),
  (0xFC9F, [0x628, 0x645]), (0xFCA0, [0x628, 0x647]), (0xFCA1, [0x62A, 0x62C]),
  (0xFCA2, [0x62A, 0x62D]), (0xFCA3, [0x62A, 0x62E]), (0xFCA4, [0x62A, 0x645]),
  (0xFCA5, [0x62A, 0x647]), (0xFCA6, [0x62B, 0x645]), (0xFCA7, [0x62C, 0x62D]),
  (0xFCA8, [0x62C, 0x645]), (0xFCA9, [0x62D, 0x62C]), (0xFCAA, [0x62D, 0x645]),
  (0xFCAB, [0x62E, 0x62C]), (0xFCAC, [0x62E, 0x645]), (0xFCAD, [0x633, 0x62C]),
  (0xFCAE, [0x633, 0x62D]), (0xFCAF, [0x633, 0x62E]), (0xFCB0, [0x633, 0x645]),
  (0xFCB1, [0x635, 0x62D]), (0xFCB2, [0x635, 0x62E]), (0xFCB3, [0x635, 0x645]),
  (0xFCB4, [0x636, 0x62C]), (0xFCB5, [0x636, 0x62D]), (0xFCB6, [0x636, 0x62E]),
  (0xFCB7, [0x636, 0x645]), (0xFCB8, [0x637, 0x62D]), (0xFCB9, [0x638, 0x645]),
  (0xFCBA, [0x639, 0x62C]), (0xFCBB, [0x639, 0x645]), (0xFCBC, [0x63A, 0x62C]),
  (0xFCBD, [0x63A, 0x645]), (0xFCBE, [0x641, 0x62C]), (0xFCBF, [0x641, 0x62D]),
  (0xFCC0, [0x641, 0x62E]), (0xFCC1, [0x641, 0x645]), (0xFCC2, [0x642, 0x62D]),
  (0xFCC3, [0x642, 0x645]), (0xFCC4, [0x643, 0x62C]), (0xFCC5, [0x643, 0x62D]),
  (0xFCC6, [0x643, 0x62E]), (0xFCC7, [0x643, 0x644]), (0xFCC8, [0x643, 0x645]),
  (0xFCC9, [0x644, 0x62C]), (0xFCCA, [0x644, 0x62D]), (0xFCCB, [0x644, 0x62E]),
  (0xFCCC, [0x644, 0x645]), (0xFCCD, [0x644, 0x647]), (0xFCCE, [0x645, 0x62C]),
  (0xFCCF, [0x645, 0x62D]), (0xFCD0, [0x645, 0x62E]), (0xFCD1, [0x645, 0x645]),
  (0xFCD2, [0x646, 0x62C]), (0xFCD3, [0x646, 0x62D]), (0xFCD4, [0x646, 0x62E]),
  (0xFCD5, [0x646, 0x645]), (0xFCD6, [0x646, 0x647]), (0xFCD7, [0x647, 0x62C]),
  (0xFCD8, [0x647, 0x645]), (0xFCD9, [0x647, 0x670]), (0xFCDA, [0x64A, 0x62C]),
  (0xFCDB, [0x64A, 0x62D]), (0xFCDC, [0x64A, 0x62E]), (0xFCDD, [0x64A, 0x645]),
  (0xFCDE, [0x64A, 0x647]), (0xFCDF, [0x626, 0x645]), (0xFCE0, [0x626, 0x647]),
  (0xFCE1, [0x628, 0x645]), (0xFCE2, [0x628, 0x647]), (0xFCE3, [0x62A, 0x645]),
  (0xFCE4, [0x62A, 0x647]), (0xFCE5, [0x62B, 0x645]), (0xFCE6, [0x62B, 0x647]),
  (0xFCE7, [0x633, 0x645]), (0xFCE8, [0x633, 0x647]), (0xFCE9, [0x634, 0x645]),
  (0xFCEA, [0x634, 0x647]), (0xFCEB, [0x643, 0x644]), (0xFCEC, [0x643, 0x645]),
  (0xFCED, [0x644, 0x645]), (0xFCEE, [0x646, 0x645]), (0xFCEF, [0x646, 0x647]),
  (0xFCF0, [0x64A, 0x645]), (0xFCF1, [0x64A, 0x647]), (0xFCF2, [0x640, 0x64E, 0x651]),
  (0xFCF3, [0x640, 0x64F, 0x651]), (0xFCF4, [0x640, 0x650, 0x651]), (0xFCF5, [0x637, 0x649]),
  (0xFCF6, [0x637, 0x64A]), (0xFCF7, [0x639, 0x649]), (0xFCF8, [0x639, 0x64A]),
  (0xFCF9, [0x63A, 0x649]), (0xFCFA, [0x63A, 0x64A]), (0xFCFB, [0x633, 0x649]),
  (0xFCFC, [0x633, 0x64A]), (0xFCFD, [0x634, 0x649]), (0xFCFE, [0x634, 0x64A]),
  (0xFCFF, [0x62D, 0x649]), (0xFD00, [0x62D, 0x64A]), (0xFD01, [0x62C, 0x649]),
  (0xFD02, [0x62C, 0x64A]), (0xFD03, [0x62E, 0x649]), (0xFD04, [0x62E, 0x64A]),
  (0xFD05, [0x635, 0x649]), (0xFD06, [0x635, 0x64A]), (0xFD07, [0x636, 0x649]),
  (0xFD08, [0x636, 0x64A]), (0xFD09, [0x634, 0x62C]), (0xFD0A, [0x634, 0x62D]),
  (0xFD0B, [0x634, 0x62E]), (0xFD0C, [0x634, 0x645]), (0xFD0D, [0x634, 0x631]),
  (0xFD0E, [0x633, 0x631]), (0xFD0F, [0x635, 0x631]), (0xFD10, [0x636, 0x631]),
  (0xFD11, [0x637, 0x649]), (0xFD12, [0x637, 0x64A]), (0xFD13, [0x639, 0x649]),
  (0xFD14, [0x639, 0x64A]), (0xFD15, [0x63A, 0x649]), (0xFD16, [0x63A, 0x64A]),
  (0xFD17, [0x633, 0x649]), (0xFD18, [0x633, 0x64A]), (0xFD19, [0x634, 0x649]),
  (0xFD1A, [0x634, 0x64A]), (0xFD1B, [0x62D, 0x649]), (0xFD1C, [0x62D, 0x64A]),
  (0xFD1D, [0x62C, 0x649]), (0xFD1E, [0x62C, 0x64A]), (0xFD1F, [0x62E, 0x649]),
  (0xFD20, [0x62E, 0x64A]), (0xFD21, [0x635, 0x649]), (0xFD22, [0x635, 0x64A]),
  (0xFD23, [0x636, 0x649]), (0xFD24, [0x636, 0x64A]), (0xFD25, [0x634, 0x62C]),
  (0xFD26, [0x634, 0x62D]), (0xFD27, [0x634, 0x62E]), (0xFD28, [0x634, 0x645]),
  (0xFD29, [0x634, 0x631]), (0xFD2A, [0x633, 0x631]), (0xFD2B, [0x635, 0x631]),
  (0xFD2C, [0x636, 0x631]), (0xFD2D, [0x634, 0x62C]), (0xFD2E, [0x634, 0x62D]),
  (0xFD2F, [0x634, 0x62E]), (0xFD30, [0x634, 0x645]), (0xFD31, [0x633, 0x647]),
  (0xFD32, [0x634, 0x647]), (0xFD33, [0x637, 0x645]), (0xFD34, [0x633, 0x62C]),
  (0xFD35, [0x633, 0x62D]), (0xFD36, [0x633, 0x62E]), (0xFD37, [0x634, 0x62C]),
  (0xFD38, [0x634, 0x62D]), (0xFD39, [0x634, 0x62E]), (0xFD3A, [0x637, 0x645]),
  (0xFD3B, [0x638, 0x645]), (0xFD3C, [0x627, 0x64B]), (0xFD3D, [0x627, 0x64B]),
  (0xFD50, [0x62A, 0x62C, 0x645]), (0xFD51, [0x62A, 0x62D, 0x62C]), (0xFD52, [0x62A, 0x62D, 0x62C]),
  (0xFD53, [0x62A, 0x62D, 0x645]), (0xFD54, [0x62A, 0x62E, 0x645]), (0xFD55, [0x62A, 0x645, 0x62C]),
  (0xFD56, [0x62A, 0x645, 0x62D]), (0xFD57, [0x62A, 0x645, 0x62E]), (0xFD58, [0x62C, 0x645, 0x62D]),
  (0xFD59, [0x62C, 0x645, 0x62D]), (0xFD5A, [0x62D, 0x645, 0x64A]), (0xFD5B, [0x62D, 0x645, 0x649]),
  (0xFD5C, [0x633, 0x62D, 0x62C]), (0xFD5D, [0x633, 0x62C, 0x62D]), (0xFD5E, [0x633, 0x62C, 0x649]),
  (0xFD5F, [0x633, 0x645, 0x62D]), (0xFD60, [0x633, 0x645, 0x62D]), (0xFD61, [0x633, 0x645, 0x62C]),
  (0xFD62, [0x633, 0x645, 0x645]), (0xFD63, [0x633, 0x645, 0x645]), (0xFD64, [0x635, 0x62D, 0x62D]),
  (0xFD65, [0x635, 0x62D, 0x62D]), (0xFD66, [0x635, 0x645, 0x645]), (0xFD67, [0x634, 0x62D, 0x645]),
  (0xFD68, [0x634, 0x62D, 0x645]), (0xFD69, [0x634, 0x62C, 0x64A]), (0xFD6A, [0x634, 0x645, 0x62E]),
  (0xFD6B, [0x634, 0x645, 0x62E]), (0xFD6C, [0x634, 0x645, 0x645]), (0xFD6D, [0x634, 0x645, 0x645]),
  (0xFD6E, [0x636, 0x62D, 0x649]), (0xFD6F, [0x636, 0x62E, 0x645]), (0xFD70, [0x636, 0x62E, 0x645]),
  (0xFD71, [0x637, 0x645, 0x62D]), (0xFD72, [0x637, 0x645, 0x62D]), (0xFD73, [0x637, 0x645, 0x645]),
  (0xFD74, [0x637, 0x645, 0x64A]), (0xFD75, [0x639, 0x62C, 0x645]), (0xFD76, [0x639, 0x645, 0x645]),
  (0xFD77, [0x639, 0x645, 0x645]), (0xFD78, [0x639, 0x645, 0x649]), (0xFD79, [0x63A, 0x645, 0x645]),
  (0xFD7A, [0x63A, 0x645, 0x64A]), (0xFD7B, [0x63A, 0x645, 0x649]), (0xFD7C, [0x641, 0x62E, 0x645]),
  (0xFD7D, [0x641, 0x62E, 0x645]), (0xFD7E, [0x642, 0x645, 0x62D]), (0xFD7F, [0x642, 0x645, 0x645]),
  (0xFD80, [0x644, 0x62D, 0x645]), (0xFD81, [0x644, 0x62D, 0x64A]), (0xFD82, [0x644, 0x62D, 0x649]),
  (0xFD83, [0x644, 0x62C, 0x62C]), (0xFD84, [0x644, 0x62C, 0x62C]), (0xFD85, [0x644, 0x62E, 0x645]),
  (0xFD86, [0x644, 0x62E, 0x645]), (0xFD87, [0x644, 0x645, 0x62D]), (0xFD88, [0x644, 0x645, 0x62D]),
  (0xFD89, [0x645, 0x62D, 0x62C]), (0xFD8A, [0x645, 0x62D, 0x645]), (0xFD8B, [0x645, 0x62D, 0x64A]),
  (0xFD8C, [0x645, 0x62C, 0x62D]), (0xFD8D, [0x645, 0x62C, 0x645]), (0xFD8E, [0x645, 0x62E, 0x62C]),
  (0xFD8F, [0x645, 0x62E, 0x645]), (0xFD92, [0x645, 0x62C, 0x62E]), (0xFD93, [0x647, 0x645, 0x62C]),
  (0xFD94, [0x647, 0x645, 0x645]), (0xFD95, [0x646, 0x62D, 0x645]), (0xFD96, [0x646, 0x62D, 0x649]),
  (0xFD97, [0x646, 0x62C, 0x645]), (0xFD98, [0x646, 0x62C, 0x645]), (0xFD99, [0x646, 0x62C, 0x649]),
  (0xFD9A, [0x646, 0x645, 0x64A]), (0xFD9B, [0x646, 0x645, 0x649]), (0xFD9C, [0x64A, 0x645, 0x645]),
  (0xFD9D, [0x64A, 0x645, 0x645]), (0xFD9E, [0x628, 0x62E, 0x64A]), (0xFD9F, [0x62A, 0x62C, 0x64A]),
  (0xFDA0, [0x62A, 0x62C, 0x649]), (0xFDA1, [0x62A, 0x62E, 0x64A]), (0xFDA2, [0x62A, 0x62E, 0x649]),
  (0xFDA3, [0x62A, 0x645, 0x64A]), (0xFDA4, [0x62A, 0x645, 0x649]), (0xFDA5, [0x62C, 0x645, 0x64A]),
  (0xFDA6, [0x62C, 0x62D, 0x649]), (0xFDA7, [0x62C, 0x645, 0x649]), (0xFDA8, [0x633, 0x62E, 0x649]),
  (0xFDA9, [0x635, 0x62D, 0x64A]), (0xFDAA, [0x634, 0x62D, 0x64A]), (0xFDAB, [0x636, 0x62D, 0x64A]),
  (0xFDAC, [0x644, 0x62C, 0x64A]), (0xFDAD, [0x644, 0x645, 0x64A]), (0xFDAE, [0x64A, 0x62D, 0x64A]),
  (0xFDAF, [0x64A, 0x62C, 0x64A]), (0xFDB0, [0x64A, 0x645, 0x64A]), (0xFDB1, [0x645, 0x645, 0x64A]),
  (0xFDB2, [0x642, 0x645, 0x64A]), (0xFDB3, [0x646, 0x62D, 0x64A]), (0xFDB4, [0x642, 0x645, 0x62D]),
  (0xFDB5, [0x644, 0x62D, 0x645]), (0xFDB6, [0x639, 0x645, 0x64A]), (0xFDB7, [0x643, 0x645, 0x64A]),
  (0xFDB8, [0x646, 0x62C, 0x62D]), (0xFDB9, [0x645, 0x62E, 0x64A]), (0xFDBA, [0x644, 0x62C, 0x645]),
  (0xFDBB, [0x643, 0x645, 0x645]), (0xFDBC, [0x644, 0x62C, 0x645]), (0xFDBD, [0x646, 0x62C, 0x62D]),
  (0xFDBE, [0x62C, 0x62D, 0x64A]), (0xFDBF, [0x62D, 0x62C, 0x64A]), (0xFDC0, [0x645, 0x62C, 0x64A]),
  (0xFDC1, [0x641, 0x645, 0x64A]), (0xFDC2, [0x628, 0x62D, 0x64A]), (0xFDC3, [0x643, 0x645, 0x645]),
  (0xFDC4, [0x639, 0x62C, 0x645]), (0xFDC5, [0x635, 0x645, 0x645]), (0xFDC6, [0x633, 0x62E, 0x64A]),
  (0xFDC7, [0x646, 0x62C, 0x64A]), (0xFDF0, [0x635, 0x644, 0x6D2]), (0xFDF1, [0x642, 0x644, 0x6D2]),
  (0xFDF2, [0x627, 0x644, 0x644, 0x647]), (0xFDF3, [0x627, 0x643, 0x628, 0x631]),
  (0xFDF4, [0x645, 0x62D, 0x645, 0x62F]), (0xFDF5, [0x635, 0x644, 0x639, 0x645]),
  (0xFDF6, [0x631, 0x633, 0x648, 0x644]), (0xFDF7, [0x639, 0x644, 0x64A, 0x647]),
  (0xFDF8, [0x648, 0x633, 0x644, 0x645]), (0xFDF9, [0x635, 0x644, 0x649]),
  (0xFDFA, [0x635, 0x644, 0x649, 0x20, 0x627, 0x644, 0x644, 0x647, 0x20, 0x639, 0x644, 0x64A, 0x647, 0x20, 0x648, 0x633, 0x644, 0x645]),
  (0xFDFB, [0x62C, 0x644, 0x20, 0x62C, 0x644, 0x627, 0x644, 0x647]),
  (0xFDFC, [0x631, 0x6CC, 0x627, 0x644]), (0xFE49, [0x20, 0x305]), (0xFE4A, [0x20, 0x305]),
  (0xFE4B, [0x20, 0x305]), (0xFE4C, [0x20, 0x305]), (0xFE70, [0x20, 0x64B]),
  (0xFE71, [0x640, 0x64B]), (0xFE72, [0x20, 0x64C]), (0xFE74, [0x20, 0x64D]),
  (0xFE76, [0x20, 0x64E]), (0xFE77, [0x640, 0x64E]), (0xFE78, [0x20, 0x64F]),
  (0xFE79, [0x640, 0x64F]), (0xFE7A, [0x20, 0x650]), (0xFE7B, [0x640, 0x650]),
  (0xFE7C, [0x20, 0x651]), (0xFE7D, [0x640, 0x651]), (0xFE7E, [0x20, 0x652]),
  (0xFE7F, [0x640, 0x652]), (0xFEF5, [0x644, 0x622]), (0xFEF6, [0x644, 0x622]),
  (0xFEF7, [0x644, 0x623]), (0xFEF8, [0x644, 0x623]), (0xFEF9, [0x644, 0x625]),
  (0xFEFA, [0x644, 0x625]), (0xFEFB, [0x644, 0x627]), (0xFEFC, [0x644, 0x627]),
  (0xFFE3, [0x20, 0x304]), (0x1D15E, [0x1D157, 0x1D165]), (0x1D15F, [0x1D158, 0x1D165]),
  (0x1D160, [0x1D158, 0x1D165, 0x1D16E]), (0x1D161, [0x1D158, 0x1D165, 0x1D16F]),
  (0x1D162, [0x1D158, 0x1D165, 0x1D170]), (0x1D163, [0x1D158, 0x1D165, 0x1D171]),
  (0x1D164, [0x1D158, 0x1D165, 0x1D172]), (0x1D1BB, [0x1D1B9, 0x1D165]),
  (0x1D1BC, [0x1D1BA, 0x1D165]), (0x1D1BD, [0x1D1B9, 0x1D165, 0x1D16E]),
  (0x1D1BE, [0x1D1BA, 0x1D165, 0x1D16E]), (0x1D1BF, [0x1D1B9, 0x1D165, 0x1D16F]),
  (0x1D1C0, [0x1D1BA, 0x1D165, 0x1D16F]), (0x1F101, [0x30, 0x2C]), (0x1F102, [0x31, 0x2C]),
  (0x1F103, [0x32, 0x2C]), (0x1F104, [0x33, 0x2C]), (0x1F105, [0x34, 0x2C]),
  (0x1F106, [0x35, 0x2C]), (0x1F107, [0x36, 0x2C]), (0x1F108, [0x37, 0x2C]),
  (0x1F109, [0x38, 0x2C]), (0x1F10A, [0x39, 0x2C]), (0x1F110, [0x28, 0x61, 0x29]),
  (0x1F111, [0x28, 0x62, 0x29]), (0x1F112, [0x28, 0x63, 0x29]), (0x1F113, [0x28, 0x64, 0x29]),
  (0x1F114, [0x28, 0x65, 0x29]), (0x1F115, [0x28, 0x66, 0x29]), (0x1F116, [0x28, 0x67, 0x29]),
  (0x1F117, [0x28, 0x68, 0x29]), (0x1F118, [0x28, 0x69, 0x29]), (0x1F119, [0x28, 0x6A, 0x29]),
  (0x1F11A, [0x28, 0x6B, 0x29]), (0x1F11B, [0x28, 0x6C, 0x29]), (0x1F11C, [0x28, 0x6D, 0x29]),
  (0x1F11D, [0x28, 0x6E, 0x29]), (0x1F11E, [0x28, 0x6F, 0x29]), (0x1F11F, [0x28, 0x70, 0x29]),
  (0x1F120, [0x28, 0x71, 0x29]), (0x1F121, [0x28, 0x72, 0x29]), (0x1F122, [0x28, 0x73, 0x29]),
  (0x1F123, [0x28, 0x74, 0x29]), (0x1F124, [0x28, 0x75, 0x29]), (0x1F125, [0x28, 0x76, 0x29]),
  (0x1F126, [0x28, 0x77, 0x29]), (0x1F127, [0x28, 0x78, 0x29]), (0x1F128, [0x28, 0x79, 0x29]),
  (0x1F129, [0x28, 0x7A, 0x29]), (0x1F12A, [0x3014, 0x73, 0x3015]), (0x1F12D, [0x63, 0x64]),
  (0x1F12E, [0x77, 0x7A]), (0x1F14A, [0x68, 0x76]), (0x1F14B, [0x6D, 0x76]),
  (0x1F14C, [0x73, 0x64]), (0x1F14D, [0x73, 0x73]), (0x1F14E, [0x70, 0x70, 0x76]),
  (0x1F14F, [0x77, 0x63]), (0x1F16A, [0x6D, 0x63]), (0x1F16B, [0x6D, 0x64]),
  (0x1F16C, [0x6D, 0x72]), (0x1F190, [0x64, 0x6A]), (0x1F200, [0x307B, 0x304B]),
  (0x1F201, [0x30B3, 0x30B3]), (0x1F240, [0x3014, 0x672C, 0x3015]),
  (0x1F241, [0x3014, 0x4E09, 0x3015]), (0x1F242, [0x3014, 0x4E8C, 0x3015]),
  (0x1F243, [0x3014, 0x5B89, 0x3015]), (0x1F244, [0x3014, 0x70B9, 0x3015]),
  (0x1F245, [0x3014, 0x6253, 0x3015]), (0x1F246, [0x3014, 0x76D7, 0x3015]),
  (0x1F247, [0x3014, 0x52DD, 0x3015]), (0x1F248, [0x3014, 0x6557, 0x3015])]

/-- The characters that stand for several characters. -/
def mappedExpansions : List (Nat × List Nat) :=
  mappedExpansionsFirst ++ mappedExpansionsSecond

def disallowedRangesFirst : List (Nat × Nat) := [
  (0x80, 0x9F), (0x378, 0x379), (0x380, 0x383), (0x38B, 0x38B), (0x38D, 0x38D), (0x3A2, 0x3A2),
  (0x530, 0x530), (0x557, 0x558), (0x58B, 0x58C), (0x590, 0x590), (0x5C8, 0x5CF), (0x5EB, 0x5EE),
  (0x5F5, 0x605), (0x61C, 0x61C), (0x6DD, 0x6DD), (0x70E, 0x70F), (0x74B, 0x74C), (0x7B2, 0x7BF),
  (0x7FB, 0x7FC), (0x82E, 0x82F), (0x83F, 0x83F), (0x85C, 0x85D), (0x85F, 0x85F), (0x86B, 0x86F),
  (0x890, 0x896), (0x8E2, 0x8E2), (0x984, 0x984), (0x98D, 0x98E), (0x991, 0x992), (0x9A9, 0x9A9),
  (0x9B1, 0x9B1), (0x9B3, 0x9B5), (0x9BA, 0x9BB), (0x9C5, 0x9C6), (0x9C9, 0x9CA), (0x9CF, 0x9D6),
  (0x9D8, 0x9DB), (0x9DE, 0x9DE), (0x9E4, 0x9E5), (0x9FF, 0xA00), (0xA04, 0xA04), (0xA0B, 0xA0E),
  (0xA11, 0xA12), (0xA29, 0xA29), (0xA31, 0xA31), (0xA34, 0xA34), (0xA37, 0xA37), (0xA3A, 0xA3B),
  (0xA3D, 0xA3D), (0xA43, 0xA46), (0xA49, 0xA4A), (0xA4E, 0xA50), (0xA52, 0xA58), (0xA5D, 0xA5D),
  (0xA5F, 0xA65), (0xA77, 0xA80), (0xA84, 0xA84), (0xA8E, 0xA8E), (0xA92, 0xA92), (0xAA9, 0xAA9),
  (0xAB1, 0xAB1), (0xAB4, 0xAB4), (0xABA, 0xABB), (0xAC6, 0xAC6), (0xACA, 0xACA), (0xACE, 0xACF),
  (0xAD1, 0xADF), (0xAE4, 0xAE5), (0xAF2, 0xAF8), (0xB00, 0xB00), (0xB04, 0xB04), (0xB0D, 0xB0E),
  (0xB11, 0xB12), (0xB29, 0xB29), (0xB31, 0xB31), (0xB34, 0xB34), (0xB3A, 0xB3B), (0xB45, 0xB46),
  (0xB49, 0xB4A), (0xB4E, 0xB54), (0xB58, 0xB5B), (0xB5E, 0xB5E), (0xB64, 0xB65), (0xB78, 0xB81),
  (0xB84, 0xB84), (0xB8B, 0xB8D), (0xB91, 0xB91), (0xB96, 0xB98), (0xB9B, 0xB9B), (0xB9D, 0xB9D),
  (0xBA0, 0xBA2), (0xBA5, 0xBA7), (0xBAB, 0xBAD), (0xBBA, 0xBBD), (0xBC3, 0xBC5), (0xBC9, 0xBC9),
  (0xBCE, 0xBCF), (0xBD1, 0xBD6), (0xBD8, 0xBE5), (0xBFB, 0xBFF), (0xC0D, 0xC0D), (0xC11, 0xC11),
  (0xC29, 0xC29), (0xC3A, 0xC3B), (0xC45, 0xC45), (0xC49, 0xC49), (0xC4E, 0xC54), (0xC57, 0xC57),
  (0xC5B, 0xC5B), (0xC5E, 0xC5F), (0xC64, 0xC65), (0xC70, 0xC76), (0xC8D, 0xC8D), (0xC91, 0xC91),
  (0xCA9, 0xCA9), (0xCB4, 0xCB4), (0xCBA, 0xCBB), (0xCC5, 0xCC5), (0xCC9, 0xCC9), (0xCCE, 0xCD4),
  (0xCD7, 0xCDB), (0xCDF, 0xCDF), (0xCE4, 0xCE5), (0xCF0, 0xCF0), (0xCF4, 0xCFF), (0xD0D, 0xD0D),
  (0xD11, 0xD11), (0xD45, 0xD45), (0xD49, 0xD49), (0xD50, 0xD53), (0xD64, 0xD65), (0xD80, 0xD80),
  (0xD84, 0xD84), (0xD97, 0xD99), (0xDB2, 0xDB2), (0xDBC, 0xDBC), (0xDBE, 0xDBF), (0xDC7, 0xDC9),
  (0xDCB, 0xDCE), (0xDD5, 0xDD5), (0xDD7, 0xDD7), (0xDE0, 0xDE5), (0xDF0, 0xDF1), (0xDF5, 0xE00),
  (0xE3B, 0xE3E), (0xE5C, 0xE80), (0xE83, 0xE83), (0xE85, 0xE85), (0xE8B, 0xE8B), (0xEA4, 0xEA4),
  (0xEA6, 0xEA6), (0xEBE, 0xEBF), (0xEC5, 0xEC5), (0xEC7, 0xEC7), (0xECF, 0xECF), (0xEDA, 0xEDB),
  (0xEE0, 0xEFF), (0xF48, 0xF48), (0xF6D, 0xF70), (0xF98, 0xF98), (0xFBD, 0xFBD), (0xFCD, 0xFCD),
  (0xFDB, 0xFFF), (0x10C6, 0x10C6), (0x10C8, 0x10CC), (0x10CE, 0x10CF), (0x1249, 0x1249),
  (0x124E, 0x124F), (0x1257, 0x1257), (0x1259, 0x1259), (0x125E, 0x125F), (0x1289, 0x1289),
  (0x128E, 0x128F), (0x12B1, 0x12B1), (0x12B6, 0x12B7), (0x12BF, 0x12BF), (0x12C1, 0x12C1),
  (0x12C6, 0x12C7), (0x12D7, 0x12D7), (0x1311, 0x1311), (0x1316, 0x1317), (0x135B, 0x135C),
  (0x137D, 0x137F), (0x139A, 0x139F), (0x13F6, 0x13F7), (0x13FE, 0x13FF), (0x1680, 0x1680),
  (0x169D, 0x169F), (0x16F9, 0x16FF), (0x1716, 0x171E), (0x1737, 0x173F), (0x1754, 0x175F),
  (0x176D, 0x176D), (0x1771, 0x1771), (0x1774, 0x177F), (0x17DE, 0x17DF), (0x17EA, 0x17EF),
  (0x17FA, 0x17FF), (0x181A, 0x181F), (0x1879, 0x187F), (0x18AB, 0x18AF), (0x18F6, 0x18FF),
  (0x191F, 0x191F), (0x192C, 0x192F), (0x193C, 0x193F), (0x1941, 0x1943), (0x196E, 0x196F),
  (0x1975, 0x197F), (0x19AC, 0x19AF), (0x19CA, 0x19CF), (0x19DB, 0x19DD), (0x1A1C, 0x1A1D),
  (0x1A5F, 0x1A5F), (0x1A7D, 0x1A7E), (0x1A8A, 0x1A8F), (0x1A9A, 0x1A9F), (0x1AAE, 0x1AAF),
  (0x1ADE, 0x1ADF), (0x1AEC, 0x1AFF), (0x1B4D, 0x1B4D), (0x1BF4, 0x1BFB), (0x1C38, 0x1C3A),
  (0x1C4A, 0x1C4C), (0x1C8B, 0x1C8F), (0x1CBB, 0x1CBC), (0x1CC8, 0x1CCF), (0x1CFB, 0x1CFF),
  (0x1F16, 0x1F17), (0x1F1E, 0x1F1F), (0x1F46, 0x1F47), (0x1F4E, 0x1F4F), (0x1F58, 0x1F58),
  (0x1F5A, 0x1F5A), (0x1F5C, 0x1F5C), (0x1F5E, 0x1F5E), (0x1F7E, 0x1F7F), (0x1FB5, 0x1FB5),
  (0x1FC5, 0x1FC5), (0x1FD4, 0x1FD5), (0x1FDC, 0x1FDC), (0x1FF0, 0x1FF1), (0x1FF5, 0x1FF5),
  (0x1FFF, 0x1FFF), (0x200E, 0x200F), (0x2024, 0x2026), (0x2028, 0x202E), (0x2065, 0x2069),
  (0x2072, 0x2073), (0x208F, 0x208F), (0x209D, 0x209F), (0x20C2, 0x20CF), (0x20F1, 0x20FF),
  (0x218C, 0x218F), (0x242A, 0x243F), (0x244B, 0x245F), (0x2488, 0x249B), (0x2B74, 0x2B75),
  (0x2CF4, 0x2CF8), (0x2D26, 0x2D26), (0x2D28, 0x2D2C), (0x2D2E, 0x2D2F), (0x2D68, 0x2D6E),
  (0x2D71, 0x2D7E), (0x2D97, 0x2D9F), (0x2DA7, 0x2DA7), (0x2DAF, 0x2DAF), (0x2DB7, 0x2DB7),
  (0x2DBF, 0x2DBF), (0x2DC7, 0x2DC7), (0x2DCF, 0x2DCF), (0x2DD7, 0x2DD7), (0x2DDF, 0x2DDF),
  (0x2E5E, 0x2E7F), (0x2E9A, 0x2E9A), (0x2EF4, 0x2EFF), (0x2FD6, 0x2FFF), (0x3040, 0x3040),
  (0x3097, 0x3098), (0x3100, 0x3104), (0x3130, 0x3130), (0x318F, 0x318F), (0x31E6, 0x31EF),
  (0x321F, 0x321F), (0x33C2, 0x33C2), (0x33C7, 0x33C7), (0x33D8, 0x33D8), (0xA48D, 0xA48F),
  (0xA4C7, 0xA4CF), (0xA62C, 0xA63F), (0xA6F8, 0xA6FF), (0xA7DD, 0xA7F0), (0xA82D, 0xA82F),
  (0xA83A, 0xA83F), (0xA878, 0xA87F), (0xA8C6, 0xA8CD), (0xA8DA, 0xA8DF), (0xA954, 0xA95E),
  (0xA97D, 0xA97F), (0xA9CE, 0xA9CE), (0xA9DA, 0xA9DD), (0xA9FF, 0xA9FF), (0xAA37, 0xAA3F),
  (0xAA4E, 0xAA4F), (0xAA5A, 0xAA5B), (0xAAC3, 0xAADA), (0xAAF7, 0xAB00), (0xAB07, 0xAB08),
  (0xAB0F, 0xAB10), (0xAB17, 0xAB1F), (0xAB27, 0xAB27), (0xAB2F, 0xAB2F), (0xAB6C, 0xAB6F),
  (0xABEE, 0xABEF), (0xABFA, 0xABFF), (0xD7A4, 0xD7AF), (0xD7C7, 0xD7CA), (0xD7FC, 0xF8FF),
  (0xFA6E, 0xFA6F), (0xFADA, 0xFAFF), (0xFB07, 0xFB12), (0xFB18, 0xFB1C), (0xFB37, 0xFB37),
  (0xFB3D, 0xFB3D), (0xFB3F, 0xFB3F), (0xFB42, 0xFB42), (0xFB45, 0xFB45), (0xFDD0, 0xFDEF),
  (0xFE12, 0xFE12), (0xFE19, 0xFE1F), (0xFE30, 0xFE30), (0xFE52, 0xFE53), (0xFE67, 0xFE67),
  (0xFE6C, 0xFE6F), (0xFE75, 0xFE75), (0xFEFD, 0xFEFE), (0xFF00, 0xFF00), (0xFFBF, 0xFFC1),
  (0xFFC8, 0xFFC9), (0xFFD0, 0xFFD1), (0xFFD8, 0xFFD9), (0xFFDD, 0xFFDF), (0xFFE7, 0xFFE7),
  (0xFFEF, 0xFFFF), (0x1000C, 0x1000C), (0x10027, 0x10027), (0x1003B, 0x1003B), (0x1003E, 0x1003E),
  (0x1004E, 0x1004F), (0x1005E, 0x1007F), (0x100FB, 0x100FF), (0x10103, 0x10106),
  (0x10134, 0x10136), (0x1018F, 0x1018F), (0x1019D, 0x1019F), (0x101A1, 0x101CF),
  (0x101FE, 0x1027F), (0x1029D, 0x1029F), (0x102D1, 0x102DF), (0x102FC, 0x102FF),
  (0x10324, 0x1032C), (0x1034B, 0x1034F), (0x1037B, 0x1037F), (0x1039E, 0x1039E),
  (0x103C4, 0x103C7), (0x103D6, 0x103FF), (0x1049E, 0x1049F), (0x104AA, 0x104AF),
  (0x104D4, 0x104D7), (0x104FC, 0x104FF), (0x10528, 0x1052F), (0x10564, 0x1056E),
  (0x1057B, 0x1057B), (0x1058B, 0x1058B), (0x10593, 0x10593), (0x10596, 0x10596),
  (0x105A2, 0x105A2), (0x105B2, 0x105B2), (0x105BA, 0x105BA), (0x105BD, 0x105BF),
  (0x105F4, 0x105FF), (0x10737, 0x1073F), (0x10756, 0x1075F), (0x10768, 0x1077F),
  (0x10786, 0x10786), (0x107B1, 0x107B1), (0x107BB, 0x107FF), (0x10806, 0x10807),
  (0x10809, 0x10809), (0x10836, 0x10836), (0x10839, 0x1083B), (0x1083D, 0x1083E),
  (0x10856, 0x10856), (0x1089F, 0x108A6), (0x108B0, 0x108DF), (0x108F3, 0x108F3),
  (0x108F6, 0x108FA), (0x1091C, 0x1091E), (0x1093A, 0x1093E), (0x1095A, 0x1097F),
  (0x109B8, 0x109BB), (0x109D0, 0x109D1), (0x10A04, 0x10A04), (0x10A07, 0x10A0B),
  (0x10A14, 0x10A14), (0x10A18, 0x10A18), (0x10A36, 0x10A37), (0x10A3B, 0x10A3E),
  (0x10A49, 0x10A4F), (0x10A59, 0x10A5F), (0x10AA0, 0x10ABF), (0x10AE7, 0x10AEA),
  (0x10AF7, 0x10AFF), (0x10B36, 0x10B38), (0x10B56, 0x10B57), (0x10B73, 0x10B77),
  (0x10B92, 0x10B98), (0x10B9D, 0x10BA8), (0x10BB0, 0x10BFF), (0x10C49, 0x10C7F),
  (0x10CB3, 0x10CBF), (0x10CF3, 0x10CF9), (0x10D28, 0x10D2F), (0x10D3A, 0x10D3F),
  (0x10D66, 0x10D68), (0x10D86, 0x10D8D), (0x10D90, 0x10E5F), (0x10E7F, 0x10E7F),
  (0x10EAA, 0x10EAA), (0x10EAE, 0x10EAF), (0x10EB2, 0x10EC1), (0x10EC8, 0x10ECF),
  (0x10ED9, 0x10EF9), (0x10F28, 0x10F2F), (0x10F5A, 0x10F6F), (0x10F8A, 0x10FAF),
  (0x10FCC, 0x10FDF), (0x10FF7, 0x10FFF), (0x1104E, 0x11051), (0x11076, 0x1107E),
  (0x110BD, 0x110BD), (0x110C3, 0x110CF), (0x110E9, 0x110EF), (0x110FA, 0x110FF),
  (0x11135, 0x11135), (0x11148, 0x1114F), (0x11177, 0x1117F), (0x111E0, 0x111E0),
  (0x111F5, 0x111FF), (0x11212, 0x11212), (0x11242, 0x1127F), (0x11287, 0x11287),
  (0x11289, 0x11289), (0x1128E, 0x1128E), (0x1129E, 0x1129E), (0x112AA, 0x112AF),
  (0x112EB, 0x112EF), (0x112FA, 0x112FF), (0x11304, 0x11304), (0x1130D, 0x1130E),
  (0x11311, 0x11312), (0x11329, 0x11329), (0x11331, 0x11331), (0x11334, 0x11334),
  (0x1133A, 0x1133A), (0x11345, 0x11346), (0x11349, 0x1134A), (0x1134E, 0x1134F),
  (0x11351, 0x11356), (0x11358, 0x1135C), (0x11364, 0x11365), (0x1136D, 0x1136F),
  (0x11375, 0x1137F), (0x1138A, 0x1138A), (0x1138C, 0x1138D), (0x1138F, 0x1138F),
  (0x113B6, 0x113B6), (0x113C1, 0x113C1), (0x113C3, 0x113C4), (0x113C6, 0x113C6),
  (0x113CB, 0x113CB), (0x113D6, 0x113D6), (0x113D9, 0x113E0), (0x113E3, 0x113FF),
  (0x1145C, 0x1145C), (0x11462, 0x1147F), (0x114C8, 0x114CF), (0x114DA, 0x1157F),
  (0x115B6, 0x115B7), (0x115DE, 0x115FF), (0x11645, 0x1164F), (0x1165A, 0x1165F),
  (0x1166D, 0x1167F), (0x116BA, 0x116BF), (0x116CA, 0x116CF), (0x116E4, 0x116FF),
  (0x1171B, 0x1171C), (0x1172C, 0x1172F), (0x11747, 0x117FF), (0x1183C, 0x1189F),
  (0x118F3, 0x118FE), (0x11907, 0x11908), (0x1190A, 0x1190B), (0x11914, 0x11914),
  (0x11917, 0x11917), (0x11936, 0x11936), (0x11939, 0x1193A), (0x11947, 0x1194F),
  (0x1195A, 0x1199F), (0x119A8, 0x119A9), (0x119D8, 0x119D9), (0x119E5, 0x119FF),
  (0x11A48, 0x11A4F), (0x11AA3, 0x11AAF), (0x11AF9, 0x11AFF), (0x11B0A, 0x11B5F),
  (0x11B68, 0x11BBF), (0x11BE2, 0x11BEF), (0x11BFA, 0x11BFF), (0x11C09, 0x11C09),
  (0x11C37, 0x11C37), (0x11C46, 0x11C4F), (0x11C6D, 0x11C6F), (0x11C90, 0x11C91),
  (0x11CA8, 0x11CA8), (0x11CB7, 0x11CFF), (0x11D07, 0x11D07), (0x11D0A, 0x11D0A),
  (0x11D37, 0x11D39), (0x11D3B, 0x11D3B), (0x11D3E, 0x11D3E), (0x11D48, 0x11D4F),
  (0x11D5A, 0x11D5F), (0x11D66, 0x11D66), (0x11D69, 0x11D69), (0x11D8F, 0x11D8F),
  (0x11D92, 0x11D92), (0x11D99, 0x11D9F), (0x11DAA, 0x11DAF), (0x11DDC, 0x11DDF),
  (0x11DEA, 0x11EDF), (0x11EF9, 0x11EFF), (0x11F11, 0x11F11), (0x11F3B, 0x11F3D),
  (0x11F5B, 0x11FAF), (0x11FB1, 0x11FBF), (0x11FF2, 0x11FFE), (0x1239A, 0x123FF),
  (0x1246F, 0x1246F), (0x12475, 0x1247F), (0x12544, 0x12F8F), (0x12FF3, 0x12FFF),
  (0x13430, 0x1343F), (0x13456, 0x1345F), (0x143FB, 0x143FF), (0x14647, 0x160FF),
  (0x1613A, 0x167FF), (0x16A39, 0x16A3F), (0x16A5F, 0x16A5F), (0x16A6A, 0x16A6D),
  (0x16ABF, 0x16ABF), (0x16ACA, 0x16ACF), (0x16AEE, 0x16AEF), (0x16AF6, 0x16AFF),
  (0x16B46, 0x16B4F), (0x16B5A, 0x16B5A), (0x16B62, 0x16B62), (0x16B78, 0x16B7C),
  (0x16B90, 0x16D3F), (0x16D7A, 0x16E3F), (0x16E9B, 0x16E9F), (0x16EB9, 0x16EBA),
  (0x16ED4, 0x16EFF), (0x16F4B, 0x16F4E), (0x16F88, 0x16F8E), (0x16FA0, 0x16FDF),
  (0x16FE5, 0x16FEF), (0x16FF7, 0x16FFF), (0x18CD6, 0x18CFE), (0x18D1F, 0x18D7F),
  (0x18DF3, 0x1AFEF), (0x1AFF4, 0x1AFF4), (0x1AFFC, 0x1AFFC), (0x1AFFF, 0x1AFFF),
  (0x1B123, 0x1B131), (0x1B133, 0x1B14F), (0x1B153, 0x1B154), (0x1B156, 0x1B163),
  (0x1B168, 0x1B16F), (0x1B2FC, 0x1BBFF), (0x1BC6B, 0x1BC6F), (0x1BC7D, 0x1BC7F),
  (0x1BC89, 0x1BC8F), (0x1BC9A, 0x1BC9B), (0x1BCA4, 0x1CBFF), (0x1CCFD, 0x1CCFF),
  (0x1CEB4, 0x1CEB9), (0x1CED1, 0x1CEDF), (0x1CEF1, 0x1CEFF), (0x1CF2E, 0x1CF2F),
  (0x1CF47, 0x1CF4F), (0x1CFC4, 0x1CFFF), (0x1D0F6, 0x1D0FF), (0x1D127, 0x1D128),
  (0x1D1EB, 0x1D1FF), (0x1D246, 0x1D2BF), (0x1D2D4, 0x1D2DF), (0x1D2F4, 0x1D2FF),
  (0x1D357, 0x1D35F), (0x1D379, 0x1D3FF), (0x1D455, 0x1D455), (0x1D49D, 0x1D49D),
  (0x1D4A0, 0x1D4A1), (0x1D4A3, 0x1D4A4), (0x1D4A7, 0x1D4A8), (0x1D4AD, 0x1D4AD),
  (0x1D4BA, 0x1D4BA), (0x1D4BC, 0x1D4BC), (0x1D4C4, 0x1D4C4), (0x1D506, 0x1D506),
  (0x1D50B, 0x1D50C), (0x1D515, 0x1D515), (0x1D51D, 0x1D51D), (0x1D53A, 0x1D53A),
  (0x1D53F, 0x1D53F), (0x1D545, 0x1D545), (0x1D547, 0x1D549), (0x1D551, 0x1D551),
  (0x1D6A6, 0x1D6A7), (0x1D7CC, 0x1D7CD), (0x1DA8C, 0x1DA9A), (0x1DAA0, 0x1DAA0),
  (0x1DAB0, 0x1DEFF), (0x1DF1F, 0x1DF24), (0x1DF2B, 0x1DFFF), (0x1E007, 0x1E007),
  (0x1E019, 0x1E01A), (0x1E022, 0x1E022), (0x1E025, 0x1E025), (0x1E02B, 0x1E02F),
  (0x1E06E, 0x1E08E), (0x1E090, 0x1E0FF), (0x1E12D, 0x1E12F), (0x1E13E, 0x1E13F),
  (0x1E14A, 0x1E14D), (0x1E150, 0x1E28F), (0x1E2AF, 0x1E2BF), (0x1E2FA, 0x1E2FE),
  (0x1E300, 0x1E4CF), (0x1E4FA, 0x1E5CF), (0x1E5FB, 0x1E5FE), (0x1E600, 0x1E6BF),
  (0x1E6DF, 0x1E6DF), (0x1E6F6, 0x1E6FD), (0x1E700, 0x1E7DF), (0x1E7E7, 0x1E7E7),
  (0x1E7EC, 0x1E7EC), (0x1E7EF, 0x1E7EF), (0x1E7FF, 0x1E7FF), (0x1E8C5, 0x1E8C6),
  (0x1E8D7, 0x1E8FF), (0x1E94C, 0x1E94F), (0x1E95A, 0x1E95D), (0x1E960, 0x1EC70),
  (0x1ECB5, 0x1ED00), (0x1ED3E, 0x1EDFF), (0x1EE04, 0x1EE04), (0x1EE20, 0x1EE20),
  (0x1EE23, 0x1EE23), (0x1EE25, 0x1EE26), (0x1EE28, 0x1EE28), (0x1EE33, 0x1EE33),
  (0x1EE38, 0x1EE38), (0x1EE3A, 0x1EE3A), (0x1EE3C, 0x1EE41), (0x1EE43, 0x1EE46),
  (0x1EE48, 0x1EE48), (0x1EE4A, 0x1EE4A), (0x1EE4C, 0x1EE4C), (0x1EE50, 0x1EE50),
  (0x1EE53, 0x1EE53), (0x1EE55, 0x1EE56), (0x1EE58, 0x1EE58), (0x1EE5A, 0x1EE5A),
  (0x1EE5C, 0x1EE5C), (0x1EE5E, 0x1EE5E), (0x1EE60, 0x1EE60), (0x1EE63, 0x1EE63),
  (0x1EE65, 0x1EE66), (0x1EE6B, 0x1EE6B), (0x1EE73, 0x1EE73), (0x1EE78, 0x1EE78),
  (0x1EE7D, 0x1EE7D), (0x1EE7F, 0x1EE7F), (0x1EE8A, 0x1EE8A), (0x1EE9C, 0x1EEA0),
  (0x1EEA4, 0x1EEA4), (0x1EEAA, 0x1EEAA), (0x1EEBC, 0x1EEEF), (0x1EEF2, 0x1EFFF), (0x1F02C, 0x1F02F)]

def disallowedRangesSecond : List (Nat × Nat) := [
  (0x1F094, 0x1F09F), (0x1F0AF, 0x1F0B0), (0x1F0C0, 0x1F0C0), (0x1F0D0, 0x1F0D0),
  (0x1F0F6, 0x1F100), (0x1F1AE, 0x1F1E5), (0x1F203, 0x1F20F), (0x1F23C, 0x1F23F),
  (0x1F249, 0x1F24F), (0x1F252, 0x1F25F), (0x1F266, 0x1F2FF), (0x1F6D9, 0x1F6DB),
  (0x1F6ED, 0x1F6EF), (0x1F6FD, 0x1F6FF), (0x1F7DA, 0x1F7DF), (0x1F7EC, 0x1F7EF),
  (0x1F7F1, 0x1F7FF), (0x1F80C, 0x1F80F), (0x1F848, 0x1F84F), (0x1F85A, 0x1F85F),
  (0x1F888, 0x1F88F), (0x1F8AE, 0x1F8AF), (0x1F8BC, 0x1F8BF), (0x1F8C2, 0x1F8CF),
  (0x1F8D9, 0x1F8FF), (0x1FA58, 0x1FA5F), (0x1FA6E, 0x1FA6F), (0x1FA7D, 0x1FA7F),
  (0x1FA8B, 0x1FA8D), (0x1FAC7, 0x1FAC7), (0x1FAC9, 0x1FACC), (0x1FADD, 0x1FADE),
  (0x1FAEB, 0x1FAEE), (0x1FAF9, 0x1FAFF), (0x1FB93, 0x1FB93), (0x1FBFB, 0x1FFFF),
  (0x2A6E0, 0x2A6FF), (0x2B81E, 0x2B81F), (0x2CEAE, 0x2CEAF), (0x2EBE1, 0x2EBEF),
  (0x2EE5E, 0x2F7FF), (0x2FA1E, 0x2FFFF), (0x3134B, 0x3134F), (0x3347A, 0xE00FF),
  (0xE01F0, 0x10FFFF)]

/-- The characters that no domain may hold. -/
def disallowedRanges : List (Nat × Nat) :=
  disallowedRangesFirst ++ disallowedRangesSecond

/-- The characters that stand for nothing. -/
def ignoredRanges : List (Nat × Nat) := [
  (0xAD, 0xAD), (0x34F, 0x34F), (0x115F, 0x1160), (0x17B4, 0x17B5), (0x180B, 0x180F),
  (0x200B, 0x200B), (0x2060, 0x2064), (0x206A, 0x206F), (0x3164, 0x3164), (0xFE00, 0xFE0F),
  (0xFEFF, 0xFEFF), (0xFFA0, 0xFFA0), (0x1BCA0, 0x1BCA3), (0x1D173, 0x1D17A), (0xE0100, 0xE01EF)]

end SecretTemplate.Domain
