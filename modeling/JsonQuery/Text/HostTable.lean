import JsonQuery.Text.CodeRange

/-!
The characters that names of hosts may hold, and what there is to know of them: the direction
in which they are written, whether they join the letters beside them, and to which of a few
scripts they belong. The tables of directions are read for permitted characters only, and
their ranges run over others.
-/

namespace JsonQuery.Text

/-- Characters that any label may hold, apart from those of alternating ranges. -/
def permittedRanges : List CodeRange := [
  ⟨0x2D, 0x2D⟩, ⟨0x30, 0x39⟩, ⟨0x61, 0x7A⟩, ⟨0xDF, 0xF6⟩,
  ⟨0xF8, 0xFF⟩, ⟨0x135, 0x135⟩, ⟨0x137, 0x138⟩, ⟨0x183, 0x183⟩,
  ⟨0x185, 0x185⟩, ⟨0x188, 0x188⟩, ⟨0x18C, 0x18D⟩, ⟨0x192, 0x192⟩,
  ⟨0x195, 0x195⟩, ⟨0x199, 0x19B⟩, ⟨0x19E, 0x19E⟩, ⟨0x1A8, 0x1A8⟩,
  ⟨0x1AA, 0x1AB⟩, ⟨0x1AD, 0x1AD⟩, ⟨0x1B0, 0x1B0⟩, ⟨0x1B4, 0x1B4⟩,
  ⟨0x1B6, 0x1B6⟩, ⟨0x1B9, 0x1BB⟩, ⟨0x1BD, 0x1C3⟩, ⟨0x1DC, 0x1DD⟩,
  ⟨0x1EF, 0x1F0⟩, ⟨0x1F5, 0x1F5⟩, ⟨0x233, 0x239⟩, ⟨0x23C, 0x23C⟩,
  ⟨0x23F, 0x240⟩, ⟨0x242, 0x242⟩, ⟨0x24F, 0x2AF⟩, ⟨0x2B9, 0x2C1⟩,
  ⟨0x2C6, 0x2D1⟩, ⟨0x2EC, 0x2EC⟩, ⟨0x2EE, 0x2EE⟩, ⟨0x300, 0x33F⟩,
  ⟨0x342, 0x342⟩, ⟨0x346, 0x34E⟩, ⟨0x350, 0x36F⟩, ⟨0x371, 0x371⟩,
  ⟨0x373, 0x373⟩, ⟨0x377, 0x377⟩, ⟨0x37B, 0x37D⟩, ⟨0x390, 0x390⟩,
  ⟨0x3AC, 0x3CE⟩, ⟨0x3F3, 0x3F3⟩, ⟨0x3F8, 0x3F8⟩, ⟨0x3FB, 0x3FC⟩,
  ⟨0x430, 0x45F⟩, ⟨0x483, 0x487⟩, ⟨0x4CE, 0x4CF⟩, ⟨0x559, 0x559⟩,
  ⟨0x560, 0x586⟩, ⟨0x588, 0x588⟩, ⟨0x591, 0x5BD⟩, ⟨0x5BF, 0x5BF⟩,
  ⟨0x5C1, 0x5C2⟩, ⟨0x5C4, 0x5C5⟩, ⟨0x5C7, 0x5C7⟩, ⟨0x5D0, 0x5EA⟩,
  ⟨0x5EF, 0x5F2⟩, ⟨0x610, 0x61A⟩, ⟨0x620, 0x63F⟩, ⟨0x641, 0x65F⟩,
  ⟨0x66E, 0x674⟩, ⟨0x679, 0x6D3⟩, ⟨0x6D5, 0x6DC⟩, ⟨0x6DF, 0x6E8⟩,
  ⟨0x6EA, 0x6EF⟩, ⟨0x6FA, 0x6FF⟩, ⟨0x710, 0x74A⟩, ⟨0x74D, 0x7B1⟩,
  ⟨0x7C0, 0x7F5⟩, ⟨0x7FD, 0x7FD⟩, ⟨0x800, 0x82D⟩, ⟨0x840, 0x85B⟩,
  ⟨0x860, 0x86A⟩, ⟨0x870, 0x887⟩, ⟨0x889, 0x88F⟩, ⟨0x897, 0x8E1⟩,
  ⟨0x8E3, 0x957⟩, ⟨0x960, 0x963⟩, ⟨0x966, 0x96F⟩, ⟨0x971, 0x983⟩,
  ⟨0x985, 0x98C⟩, ⟨0x98F, 0x990⟩, ⟨0x993, 0x9A8⟩, ⟨0x9AA, 0x9B0⟩,
  ⟨0x9B2, 0x9B2⟩, ⟨0x9B6, 0x9B9⟩, ⟨0x9BC, 0x9C4⟩, ⟨0x9C7, 0x9C8⟩,
  ⟨0x9CB, 0x9CE⟩, ⟨0x9D7, 0x9D7⟩, ⟨0x9E0, 0x9E3⟩, ⟨0x9E6, 0x9F1⟩,
  ⟨0x9FC, 0x9FC⟩, ⟨0x9FE, 0x9FE⟩, ⟨0xA01, 0xA03⟩, ⟨0xA05, 0xA0A⟩,
  ⟨0xA0F, 0xA10⟩, ⟨0xA13, 0xA28⟩, ⟨0xA2A, 0xA30⟩, ⟨0xA32, 0xA32⟩,
  ⟨0xA35, 0xA35⟩, ⟨0xA38, 0xA39⟩, ⟨0xA3C, 0xA3C⟩, ⟨0xA3E, 0xA42⟩,
  ⟨0xA47, 0xA48⟩, ⟨0xA4B, 0xA4D⟩, ⟨0xA51, 0xA51⟩, ⟨0xA5C, 0xA5C⟩,
  ⟨0xA66, 0xA75⟩, ⟨0xA81, 0xA83⟩, ⟨0xA85, 0xA8D⟩, ⟨0xA8F, 0xA91⟩,
  ⟨0xA93, 0xAA8⟩, ⟨0xAAA, 0xAB0⟩, ⟨0xAB2, 0xAB3⟩, ⟨0xAB5, 0xAB9⟩,
  ⟨0xABC, 0xAC5⟩, ⟨0xAC7, 0xAC9⟩, ⟨0xACB, 0xACD⟩, ⟨0xAD0, 0xAD0⟩,
  ⟨0xAE0, 0xAE3⟩, ⟨0xAE6, 0xAEF⟩, ⟨0xAF9, 0xAFF⟩, ⟨0xB01, 0xB03⟩,
  ⟨0xB05, 0xB0C⟩, ⟨0xB0F, 0xB10⟩, ⟨0xB13, 0xB28⟩, ⟨0xB2A, 0xB30⟩,
  ⟨0xB32, 0xB33⟩, ⟨0xB35, 0xB39⟩, ⟨0xB3C, 0xB44⟩, ⟨0xB47, 0xB48⟩,
  ⟨0xB4B, 0xB4D⟩, ⟨0xB55, 0xB57⟩, ⟨0xB5F, 0xB63⟩, ⟨0xB66, 0xB6F⟩,
  ⟨0xB71, 0xB71⟩, ⟨0xB82, 0xB83⟩, ⟨0xB85, 0xB8A⟩, ⟨0xB8E, 0xB90⟩,
  ⟨0xB92, 0xB95⟩, ⟨0xB99, 0xB9A⟩, ⟨0xB9C, 0xB9C⟩, ⟨0xB9E, 0xB9F⟩,
  ⟨0xBA3, 0xBA4⟩, ⟨0xBA8, 0xBAA⟩, ⟨0xBAE, 0xBB9⟩, ⟨0xBBE, 0xBC2⟩,
  ⟨0xBC6, 0xBC8⟩, ⟨0xBCA, 0xBCD⟩, ⟨0xBD0, 0xBD0⟩, ⟨0xBD7, 0xBD7⟩,
  ⟨0xBE6, 0xBEF⟩, ⟨0xC00, 0xC0C⟩, ⟨0xC0E, 0xC10⟩, ⟨0xC12, 0xC28⟩,
  ⟨0xC2A, 0xC39⟩, ⟨0xC3C, 0xC44⟩, ⟨0xC46, 0xC48⟩, ⟨0xC4A, 0xC4D⟩,
  ⟨0xC55, 0xC56⟩, ⟨0xC58, 0xC5A⟩, ⟨0xC5C, 0xC5D⟩, ⟨0xC60, 0xC63⟩,
  ⟨0xC66, 0xC6F⟩, ⟨0xC80, 0xC83⟩, ⟨0xC85, 0xC8C⟩, ⟨0xC8E, 0xC90⟩,
  ⟨0xC92, 0xCA8⟩, ⟨0xCAA, 0xCB3⟩, ⟨0xCB5, 0xCB9⟩, ⟨0xCBC, 0xCC4⟩,
  ⟨0xCC6, 0xCC8⟩, ⟨0xCCA, 0xCCD⟩, ⟨0xCD5, 0xCD6⟩, ⟨0xCDC, 0xCDE⟩,
  ⟨0xCE0, 0xCE3⟩, ⟨0xCE6, 0xCEF⟩, ⟨0xCF1, 0xCF3⟩, ⟨0xD00, 0xD0C⟩,
  ⟨0xD0E, 0xD10⟩, ⟨0xD12, 0xD44⟩, ⟨0xD46, 0xD48⟩, ⟨0xD4A, 0xD4E⟩,
  ⟨0xD54, 0xD57⟩, ⟨0xD5F, 0xD63⟩, ⟨0xD66, 0xD6F⟩, ⟨0xD7A, 0xD7F⟩,
  ⟨0xD81, 0xD83⟩, ⟨0xD85, 0xD96⟩, ⟨0xD9A, 0xDB1⟩, ⟨0xDB3, 0xDBB⟩,
  ⟨0xDBD, 0xDBD⟩, ⟨0xDC0, 0xDC6⟩, ⟨0xDCA, 0xDCA⟩, ⟨0xDCF, 0xDD4⟩,
  ⟨0xDD6, 0xDD6⟩, ⟨0xDD8, 0xDDF⟩, ⟨0xDE6, 0xDEF⟩, ⟨0xDF2, 0xDF3⟩,
  ⟨0xE01, 0xE32⟩, ⟨0xE34, 0xE3A⟩, ⟨0xE40, 0xE4E⟩, ⟨0xE50, 0xE59⟩,
  ⟨0xE81, 0xE82⟩, ⟨0xE84, 0xE84⟩, ⟨0xE86, 0xE8A⟩, ⟨0xE8C, 0xEA3⟩,
  ⟨0xEA5, 0xEA5⟩, ⟨0xEA7, 0xEB2⟩, ⟨0xEB4, 0xEBD⟩, ⟨0xEC0, 0xEC4⟩,
  ⟨0xEC6, 0xEC6⟩, ⟨0xEC8, 0xECE⟩, ⟨0xED0, 0xED9⟩, ⟨0xEDE, 0xEDF⟩,
  ⟨0xF00, 0xF00⟩, ⟨0xF0B, 0xF0B⟩, ⟨0xF18, 0xF19⟩, ⟨0xF20, 0xF29⟩,
  ⟨0xF3E, 0xF42⟩, ⟨0xF44, 0xF47⟩, ⟨0xF49, 0xF4C⟩, ⟨0xF4E, 0xF51⟩,
  ⟨0xF53, 0xF56⟩, ⟨0xF58, 0xF5B⟩, ⟨0xF5D, 0xF68⟩, ⟨0xF6A, 0xF6C⟩,
  ⟨0xF71, 0xF72⟩, ⟨0xF74, 0xF74⟩, ⟨0xF7A, 0xF80⟩, ⟨0xF82, 0xF84⟩,
  ⟨0xF86, 0xF92⟩, ⟨0xF94, 0xF97⟩, ⟨0xF99, 0xF9C⟩, ⟨0xF9E, 0xFA1⟩,
  ⟨0xFA3, 0xFA6⟩, ⟨0xFA8, 0xFAB⟩, ⟨0xFAD, 0xFB8⟩, ⟨0xFBA, 0xFBC⟩,
  ⟨0xFC6, 0xFC6⟩, ⟨0x1000, 0x1049⟩, ⟨0x1050, 0x109D⟩, ⟨0x10D0, 0x10FA⟩,
  ⟨0x10FD, 0x10FF⟩, ⟨0x1200, 0x1248⟩, ⟨0x124A, 0x124D⟩, ⟨0x1250, 0x1256⟩,
  ⟨0x1258, 0x1258⟩, ⟨0x125A, 0x125D⟩, ⟨0x1260, 0x1288⟩, ⟨0x128A, 0x128D⟩,
  ⟨0x1290, 0x12B0⟩, ⟨0x12B2, 0x12B5⟩, ⟨0x12B8, 0x12BE⟩, ⟨0x12C0, 0x12C0⟩,
  ⟨0x12C2, 0x12C5⟩, ⟨0x12C8, 0x12D6⟩, ⟨0x12D8, 0x1310⟩, ⟨0x1312, 0x1315⟩,
  ⟨0x1318, 0x135A⟩, ⟨0x135D, 0x135F⟩, ⟨0x1380, 0x138F⟩, ⟨0x13A0, 0x13F5⟩,
  ⟨0x1401, 0x166C⟩, ⟨0x166F, 0x167F⟩, ⟨0x1681, 0x169A⟩, ⟨0x16A0, 0x16EA⟩,
  ⟨0x16F1, 0x16F8⟩, ⟨0x1700, 0x1715⟩, ⟨0x171F, 0x1734⟩, ⟨0x1740, 0x1753⟩,
  ⟨0x1760, 0x176C⟩, ⟨0x176E, 0x1770⟩, ⟨0x1772, 0x1773⟩, ⟨0x1780, 0x17B3⟩,
  ⟨0x17B6, 0x17D3⟩, ⟨0x17D7, 0x17D7⟩, ⟨0x17DC, 0x17DD⟩, ⟨0x17E0, 0x17E9⟩,
  ⟨0x1810, 0x1819⟩, ⟨0x1820, 0x1878⟩, ⟨0x1880, 0x18AA⟩, ⟨0x18B0, 0x18F5⟩,
  ⟨0x1900, 0x191E⟩, ⟨0x1920, 0x192B⟩, ⟨0x1930, 0x193B⟩, ⟨0x1946, 0x196D⟩,
  ⟨0x1970, 0x1974⟩, ⟨0x1980, 0x19AB⟩, ⟨0x19B0, 0x19C9⟩, ⟨0x19D0, 0x19D9⟩,
  ⟨0x1A00, 0x1A1B⟩, ⟨0x1A20, 0x1A5E⟩, ⟨0x1A60, 0x1A7C⟩, ⟨0x1A7F, 0x1A89⟩,
  ⟨0x1A90, 0x1A99⟩, ⟨0x1AA7, 0x1AA7⟩, ⟨0x1AB0, 0x1ABD⟩, ⟨0x1ABF, 0x1ADD⟩,
  ⟨0x1AE0, 0x1AEB⟩, ⟨0x1B00, 0x1B4C⟩, ⟨0x1B50, 0x1B59⟩, ⟨0x1B6B, 0x1B73⟩,
  ⟨0x1B80, 0x1BF3⟩, ⟨0x1C00, 0x1C37⟩, ⟨0x1C40, 0x1C49⟩, ⟨0x1C4D, 0x1C7D⟩,
  ⟨0x1C8A, 0x1C8A⟩, ⟨0x1CD0, 0x1CD2⟩, ⟨0x1CD4, 0x1CFA⟩, ⟨0x1D00, 0x1D2B⟩,
  ⟨0x1D2F, 0x1D2F⟩, ⟨0x1D3B, 0x1D3B⟩, ⟨0x1D4E, 0x1D4E⟩, ⟨0x1D6B, 0x1D77⟩,
  ⟨0x1D79, 0x1D9A⟩, ⟨0x1DC0, 0x1DFF⟩, ⟨0x1E95, 0x1E99⟩, ⟨0x1E9C, 0x1E9D⟩,
  ⟨0x1EFF, 0x1F07⟩, ⟨0x1F10, 0x1F15⟩, ⟨0x1F20, 0x1F27⟩, ⟨0x1F30, 0x1F37⟩,
  ⟨0x1F40, 0x1F45⟩, ⟨0x1F50, 0x1F57⟩, ⟨0x1F60, 0x1F67⟩, ⟨0x1FB0, 0x1FB1⟩,
  ⟨0x1FB6, 0x1FB6⟩, ⟨0x1FC6, 0x1FC6⟩, ⟨0x1FD0, 0x1FD2⟩, ⟨0x1FD6, 0x1FD7⟩,
  ⟨0x1FE0, 0x1FE2⟩, ⟨0x1FE4, 0x1FE7⟩, ⟨0x1FF6, 0x1FF6⟩, ⟨0x214E, 0x214E⟩,
  ⟨0x2184, 0x2184⟩, ⟨0x2C30, 0x2C5F⟩, ⟨0x2C61, 0x2C61⟩, ⟨0x2C65, 0x2C66⟩,
  ⟨0x2C71, 0x2C71⟩, ⟨0x2C73, 0x2C74⟩, ⟨0x2C76, 0x2C7B⟩, ⟨0x2CE3, 0x2CE4⟩,
  ⟨0x2CEC, 0x2CEC⟩, ⟨0x2CEE, 0x2CF1⟩, ⟨0x2CF3, 0x2CF3⟩, ⟨0x2D00, 0x2D25⟩,
  ⟨0x2D27, 0x2D27⟩, ⟨0x2D2D, 0x2D2D⟩, ⟨0x2D30, 0x2D67⟩, ⟨0x2D7F, 0x2D96⟩,
  ⟨0x2DA0, 0x2DA6⟩, ⟨0x2DA8, 0x2DAE⟩, ⟨0x2DB0, 0x2DB6⟩, ⟨0x2DB8, 0x2DBE⟩,
  ⟨0x2DC0, 0x2DC6⟩, ⟨0x2DC8, 0x2DCE⟩, ⟨0x2DD0, 0x2DD6⟩, ⟨0x2DD8, 0x2DDE⟩,
  ⟨0x2DE0, 0x2DFF⟩, ⟨0x2E2F, 0x2E2F⟩, ⟨0x3005, 0x3007⟩, ⟨0x302A, 0x302D⟩,
  ⟨0x303C, 0x303C⟩, ⟨0x3041, 0x3096⟩, ⟨0x3099, 0x309A⟩, ⟨0x309D, 0x309E⟩,
  ⟨0x30A1, 0x30FA⟩, ⟨0x30FC, 0x30FE⟩, ⟨0x3105, 0x312F⟩, ⟨0x31A0, 0x31BF⟩,
  ⟨0x31F0, 0x31FF⟩, ⟨0x3400, 0x4DBF⟩, ⟨0x4E00, 0xA48C⟩, ⟨0xA4D0, 0xA4FD⟩,
  ⟨0xA500, 0xA60C⟩, ⟨0xA610, 0xA62B⟩, ⟨0xA66D, 0xA66F⟩, ⟨0xA674, 0xA67D⟩,
  ⟨0xA69E, 0xA6E5⟩, ⟨0xA6F0, 0xA6F1⟩, ⟨0xA717, 0xA71F⟩, ⟨0xA72F, 0xA731⟩,
  ⟨0xA771, 0xA778⟩, ⟨0xA77A, 0xA77A⟩, ⟨0xA77C, 0xA77C⟩, ⟨0xA787, 0xA788⟩,
  ⟨0xA78C, 0xA78C⟩, ⟨0xA78E, 0xA78F⟩, ⟨0xA791, 0xA791⟩, ⟨0xA793, 0xA795⟩,
  ⟨0xA7AF, 0xA7AF⟩, ⟨0xA7C8, 0xA7C8⟩, ⟨0xA7CA, 0xA7CA⟩, ⟨0xA7F6, 0xA7F7⟩,
  ⟨0xA7FA, 0xA827⟩, ⟨0xA82C, 0xA82C⟩, ⟨0xA840, 0xA873⟩, ⟨0xA880, 0xA8C5⟩,
  ⟨0xA8D0, 0xA8D9⟩, ⟨0xA8E0, 0xA8F7⟩, ⟨0xA8FB, 0xA8FB⟩, ⟨0xA8FD, 0xA92D⟩,
  ⟨0xA930, 0xA953⟩, ⟨0xA980, 0xA9C0⟩, ⟨0xA9CF, 0xA9D9⟩, ⟨0xA9E0, 0xA9FE⟩,
  ⟨0xAA00, 0xAA36⟩, ⟨0xAA40, 0xAA4D⟩, ⟨0xAA50, 0xAA59⟩, ⟨0xAA60, 0xAA76⟩,
  ⟨0xAA7A, 0xAAC2⟩, ⟨0xAADB, 0xAADD⟩, ⟨0xAAE0, 0xAAEF⟩, ⟨0xAAF2, 0xAAF6⟩,
  ⟨0xAB01, 0xAB06⟩, ⟨0xAB09, 0xAB0E⟩, ⟨0xAB11, 0xAB16⟩, ⟨0xAB20, 0xAB26⟩,
  ⟨0xAB28, 0xAB2E⟩, ⟨0xAB30, 0xAB5A⟩, ⟨0xAB60, 0xAB68⟩, ⟨0xABC0, 0xABEA⟩,
  ⟨0xABEC, 0xABED⟩, ⟨0xABF0, 0xABF9⟩, ⟨0xAC00, 0xD7A3⟩, ⟨0xFA0E, 0xFA0F⟩,
  ⟨0xFA11, 0xFA11⟩, ⟨0xFA13, 0xFA14⟩, ⟨0xFA1F, 0xFA1F⟩, ⟨0xFA21, 0xFA21⟩,
  ⟨0xFA23, 0xFA24⟩, ⟨0xFA27, 0xFA29⟩, ⟨0xFB1E, 0xFB1E⟩, ⟨0xFE20, 0xFE2F⟩,
  ⟨0xFE73, 0xFE73⟩, ⟨0x10000, 0x1000B⟩, ⟨0x1000D, 0x10026⟩, ⟨0x10028, 0x1003A⟩,
  ⟨0x1003C, 0x1003D⟩, ⟨0x1003F, 0x1004D⟩, ⟨0x10050, 0x1005D⟩, ⟨0x10080, 0x100FA⟩,
  ⟨0x101FD, 0x101FD⟩, ⟨0x10280, 0x1029C⟩, ⟨0x102A0, 0x102D0⟩, ⟨0x102E0, 0x102E0⟩,
  ⟨0x10300, 0x1031F⟩, ⟨0x1032D, 0x10340⟩, ⟨0x10342, 0x10349⟩, ⟨0x10350, 0x1037A⟩,
  ⟨0x10380, 0x1039D⟩, ⟨0x103A0, 0x103C3⟩, ⟨0x103C8, 0x103CF⟩, ⟨0x10428, 0x1049D⟩,
  ⟨0x104A0, 0x104A9⟩, ⟨0x104D8, 0x104FB⟩, ⟨0x10500, 0x10527⟩, ⟨0x10530, 0x10563⟩,
  ⟨0x10597, 0x105A1⟩, ⟨0x105A3, 0x105B1⟩, ⟨0x105B3, 0x105B9⟩, ⟨0x105BB, 0x105BC⟩,
  ⟨0x105C0, 0x105F3⟩, ⟨0x10600, 0x10736⟩, ⟨0x10740, 0x10755⟩, ⟨0x10760, 0x10767⟩,
  ⟨0x10780, 0x10780⟩, ⟨0x10800, 0x10805⟩, ⟨0x10808, 0x10808⟩, ⟨0x1080A, 0x10835⟩,
  ⟨0x10837, 0x10838⟩, ⟨0x1083C, 0x1083C⟩, ⟨0x1083F, 0x10855⟩, ⟨0x10860, 0x10876⟩,
  ⟨0x10880, 0x1089E⟩, ⟨0x108E0, 0x108F2⟩, ⟨0x108F4, 0x108F5⟩, ⟨0x10900, 0x10915⟩,
  ⟨0x10920, 0x10939⟩, ⟨0x10940, 0x10959⟩, ⟨0x10980, 0x109B7⟩, ⟨0x109BE, 0x109BF⟩,
  ⟨0x10A00, 0x10A03⟩, ⟨0x10A05, 0x10A06⟩, ⟨0x10A0C, 0x10A13⟩, ⟨0x10A15, 0x10A17⟩,
  ⟨0x10A19, 0x10A35⟩, ⟨0x10A38, 0x10A3A⟩, ⟨0x10A3F, 0x10A3F⟩, ⟨0x10A60, 0x10A7C⟩,
  ⟨0x10A80, 0x10A9C⟩, ⟨0x10AC0, 0x10AC7⟩, ⟨0x10AC9, 0x10AE6⟩, ⟨0x10B00, 0x10B35⟩,
  ⟨0x10B40, 0x10B55⟩, ⟨0x10B60, 0x10B72⟩, ⟨0x10B80, 0x10B91⟩, ⟨0x10C00, 0x10C48⟩,
  ⟨0x10CC0, 0x10CF2⟩, ⟨0x10D00, 0x10D27⟩, ⟨0x10D30, 0x10D39⟩, ⟨0x10D40, 0x10D4F⟩,
  ⟨0x10D69, 0x10D6D⟩, ⟨0x10D6F, 0x10D85⟩, ⟨0x10E80, 0x10EA9⟩, ⟨0x10EAB, 0x10EAC⟩,
  ⟨0x10EB0, 0x10EB1⟩, ⟨0x10EC2, 0x10EC7⟩, ⟨0x10EFA, 0x10F1C⟩, ⟨0x10F27, 0x10F27⟩,
  ⟨0x10F30, 0x10F50⟩, ⟨0x10F70, 0x10F85⟩, ⟨0x10FB0, 0x10FC4⟩, ⟨0x10FE0, 0x10FF6⟩,
  ⟨0x11000, 0x11046⟩, ⟨0x11066, 0x11075⟩, ⟨0x1107F, 0x110BA⟩, ⟨0x110C2, 0x110C2⟩,
  ⟨0x110D0, 0x110E8⟩, ⟨0x110F0, 0x110F9⟩, ⟨0x11100, 0x11134⟩, ⟨0x11136, 0x1113F⟩,
  ⟨0x11144, 0x11147⟩, ⟨0x11150, 0x11173⟩, ⟨0x11176, 0x11176⟩, ⟨0x11180, 0x111C4⟩,
  ⟨0x111C9, 0x111CC⟩, ⟨0x111CE, 0x111DA⟩, ⟨0x111DC, 0x111DC⟩, ⟨0x11200, 0x11211⟩,
  ⟨0x11213, 0x11237⟩, ⟨0x1123E, 0x11241⟩, ⟨0x11280, 0x11286⟩, ⟨0x11288, 0x11288⟩,
  ⟨0x1128A, 0x1128D⟩, ⟨0x1128F, 0x1129D⟩, ⟨0x1129F, 0x112A8⟩, ⟨0x112B0, 0x112EA⟩,
  ⟨0x112F0, 0x112F9⟩, ⟨0x11300, 0x11303⟩, ⟨0x11305, 0x1130C⟩, ⟨0x1130F, 0x11310⟩,
  ⟨0x11313, 0x11328⟩, ⟨0x1132A, 0x11330⟩, ⟨0x11332, 0x11333⟩, ⟨0x11335, 0x11339⟩,
  ⟨0x1133B, 0x11344⟩, ⟨0x11347, 0x11348⟩, ⟨0x1134B, 0x1134D⟩, ⟨0x11350, 0x11350⟩,
  ⟨0x11357, 0x11357⟩, ⟨0x1135D, 0x11363⟩, ⟨0x11366, 0x1136C⟩, ⟨0x11370, 0x11374⟩,
  ⟨0x11380, 0x11389⟩, ⟨0x1138B, 0x1138B⟩, ⟨0x1138E, 0x1138E⟩, ⟨0x11390, 0x113B5⟩,
  ⟨0x113B7, 0x113C0⟩, ⟨0x113C2, 0x113C2⟩, ⟨0x113C5, 0x113C5⟩, ⟨0x113C7, 0x113CA⟩,
  ⟨0x113CC, 0x113D3⟩, ⟨0x113E1, 0x113E2⟩, ⟨0x11400, 0x1144A⟩, ⟨0x11450, 0x11459⟩,
  ⟨0x1145E, 0x11461⟩, ⟨0x11480, 0x114C5⟩, ⟨0x114C7, 0x114C7⟩, ⟨0x114D0, 0x114D9⟩,
  ⟨0x11580, 0x115B5⟩, ⟨0x115B8, 0x115C0⟩, ⟨0x115D8, 0x115DD⟩, ⟨0x11600, 0x11640⟩,
  ⟨0x11644, 0x11644⟩, ⟨0x11650, 0x11659⟩, ⟨0x11680, 0x116B8⟩, ⟨0x116C0, 0x116C9⟩,
  ⟨0x116D0, 0x116E3⟩, ⟨0x11700, 0x1171A⟩, ⟨0x1171D, 0x1172B⟩, ⟨0x11730, 0x11739⟩,
  ⟨0x11740, 0x11746⟩, ⟨0x11800, 0x1183A⟩, ⟨0x118C0, 0x118E9⟩, ⟨0x118FF, 0x11906⟩,
  ⟨0x11909, 0x11909⟩, ⟨0x1190C, 0x11913⟩, ⟨0x11915, 0x11916⟩, ⟨0x11918, 0x11935⟩,
  ⟨0x11937, 0x11938⟩, ⟨0x1193B, 0x11943⟩, ⟨0x11950, 0x11959⟩, ⟨0x119A0, 0x119A7⟩,
  ⟨0x119AA, 0x119D7⟩, ⟨0x119DA, 0x119E1⟩, ⟨0x119E3, 0x119E4⟩, ⟨0x11A00, 0x11A3E⟩,
  ⟨0x11A47, 0x11A47⟩, ⟨0x11A50, 0x11A99⟩, ⟨0x11A9D, 0x11A9D⟩, ⟨0x11AB0, 0x11AF8⟩,
  ⟨0x11B60, 0x11B67⟩, ⟨0x11BC0, 0x11BE0⟩, ⟨0x11BF0, 0x11BF9⟩, ⟨0x11C00, 0x11C08⟩,
  ⟨0x11C0A, 0x11C36⟩, ⟨0x11C38, 0x11C40⟩, ⟨0x11C50, 0x11C59⟩, ⟨0x11C72, 0x11C8F⟩,
  ⟨0x11C92, 0x11CA7⟩, ⟨0x11CA9, 0x11CB6⟩, ⟨0x11D00, 0x11D06⟩, ⟨0x11D08, 0x11D09⟩,
  ⟨0x11D0B, 0x11D36⟩, ⟨0x11D3A, 0x11D3A⟩, ⟨0x11D3C, 0x11D3D⟩, ⟨0x11D3F, 0x11D47⟩,
  ⟨0x11D50, 0x11D59⟩, ⟨0x11D60, 0x11D65⟩, ⟨0x11D67, 0x11D68⟩, ⟨0x11D6A, 0x11D8E⟩,
  ⟨0x11D90, 0x11D91⟩, ⟨0x11D93, 0x11D98⟩, ⟨0x11DA0, 0x11DA9⟩, ⟨0x11DB0, 0x11DDB⟩,
  ⟨0x11DE0, 0x11DE9⟩, ⟨0x11EE0, 0x11EF6⟩, ⟨0x11F00, 0x11F10⟩, ⟨0x11F12, 0x11F3A⟩,
  ⟨0x11F3E, 0x11F42⟩, ⟨0x11F50, 0x11F5A⟩, ⟨0x11FB0, 0x11FB0⟩, ⟨0x12000, 0x12399⟩,
  ⟨0x12480, 0x12543⟩, ⟨0x12F90, 0x12FF0⟩, ⟨0x13000, 0x1342F⟩, ⟨0x13440, 0x13455⟩,
  ⟨0x13460, 0x143FA⟩, ⟨0x14400, 0x14646⟩, ⟨0x16100, 0x16139⟩, ⟨0x16800, 0x16A38⟩,
  ⟨0x16A40, 0x16A5E⟩, ⟨0x16A60, 0x16A69⟩, ⟨0x16A70, 0x16ABE⟩, ⟨0x16AC0, 0x16AC9⟩,
  ⟨0x16AD0, 0x16AED⟩, ⟨0x16AF0, 0x16AF4⟩, ⟨0x16B00, 0x16B36⟩, ⟨0x16B40, 0x16B43⟩,
  ⟨0x16B50, 0x16B59⟩, ⟨0x16B63, 0x16B77⟩, ⟨0x16B7D, 0x16B8F⟩, ⟨0x16D40, 0x16D6C⟩,
  ⟨0x16D70, 0x16D79⟩, ⟨0x16E60, 0x16E7F⟩, ⟨0x16EBB, 0x16ED3⟩, ⟨0x16F00, 0x16F4A⟩,
  ⟨0x16F4F, 0x16F87⟩, ⟨0x16F8F, 0x16F9F⟩, ⟨0x16FE0, 0x16FE1⟩, ⟨0x16FE3, 0x16FE4⟩,
  ⟨0x16FF0, 0x16FF3⟩, ⟨0x17000, 0x18CD5⟩, ⟨0x18CFF, 0x18D1E⟩, ⟨0x18D80, 0x18DF2⟩,
  ⟨0x1AFF0, 0x1AFF3⟩, ⟨0x1AFF5, 0x1AFFB⟩, ⟨0x1AFFD, 0x1AFFE⟩, ⟨0x1B000, 0x1B122⟩,
  ⟨0x1B132, 0x1B132⟩, ⟨0x1B150, 0x1B152⟩, ⟨0x1B155, 0x1B155⟩, ⟨0x1B164, 0x1B167⟩,
  ⟨0x1B170, 0x1B2FB⟩, ⟨0x1BC00, 0x1BC6A⟩, ⟨0x1BC70, 0x1BC7C⟩, ⟨0x1BC80, 0x1BC88⟩,
  ⟨0x1BC90, 0x1BC99⟩, ⟨0x1BC9D, 0x1BC9E⟩, ⟨0x1CF00, 0x1CF2D⟩, ⟨0x1CF30, 0x1CF46⟩,
  ⟨0x1DA00, 0x1DA36⟩, ⟨0x1DA3B, 0x1DA6C⟩, ⟨0x1DA75, 0x1DA75⟩, ⟨0x1DA84, 0x1DA84⟩,
  ⟨0x1DA9B, 0x1DA9F⟩, ⟨0x1DAA1, 0x1DAAF⟩, ⟨0x1DF00, 0x1DF1E⟩, ⟨0x1DF25, 0x1DF2A⟩,
  ⟨0x1E000, 0x1E006⟩, ⟨0x1E008, 0x1E018⟩, ⟨0x1E01B, 0x1E021⟩, ⟨0x1E023, 0x1E024⟩,
  ⟨0x1E026, 0x1E02A⟩, ⟨0x1E08F, 0x1E08F⟩, ⟨0x1E100, 0x1E12C⟩, ⟨0x1E130, 0x1E13D⟩,
  ⟨0x1E140, 0x1E149⟩, ⟨0x1E14E, 0x1E14E⟩, ⟨0x1E290, 0x1E2AE⟩, ⟨0x1E2C0, 0x1E2F9⟩,
  ⟨0x1E4D0, 0x1E4F9⟩, ⟨0x1E5D0, 0x1E5FA⟩, ⟨0x1E6C0, 0x1E6DE⟩, ⟨0x1E6E0, 0x1E6F5⟩,
  ⟨0x1E6FE, 0x1E6FF⟩, ⟨0x1E7E0, 0x1E7E6⟩, ⟨0x1E7E8, 0x1E7EB⟩, ⟨0x1E7ED, 0x1E7EE⟩,
  ⟨0x1E7F0, 0x1E7FE⟩, ⟨0x1E800, 0x1E8C4⟩, ⟨0x1E8D0, 0x1E8D6⟩, ⟨0x1E922, 0x1E94B⟩,
  ⟨0x1E950, 0x1E959⟩, ⟨0x20000, 0x2A6DF⟩, ⟨0x2A700, 0x2B81D⟩, ⟨0x2B820, 0x2CEAD⟩,
  ⟨0x2CEB0, 0x2EBE0⟩, ⟨0x2EBF0, 0x2EE5D⟩, ⟨0x30000, 0x3134A⟩, ⟨0x31350, 0x33479⟩]

/-- Ranges of which a label may hold every second character, from the first one on. -/
def permittedAlternating : List CodeRange := [
  ⟨0x101, 0x131⟩, ⟨0x13A, 0x13E⟩, ⟨0x142, 0x148⟩, ⟨0x14B, 0x177⟩,
  ⟨0x17A, 0x180⟩, ⟨0x1A1, 0x1A5⟩, ⟨0x1CE, 0x1DA⟩, ⟨0x1DF, 0x1ED⟩,
  ⟨0x1F9, 0x231⟩, ⟨0x247, 0x24D⟩, ⟨0x3D7, 0x3EF⟩, ⟨0x461, 0x481⟩,
  ⟨0x48B, 0x4BF⟩, ⟨0x4C2, 0x4CC⟩, ⟨0x4D1, 0x52F⟩, ⟨0xF35, 0xF39⟩,
  ⟨0x1E01, 0x1E93⟩, ⟨0x1E9F, 0x1EFD⟩, ⟨0x1F70, 0x1F7C⟩, ⟨0x2C68, 0x2C6C⟩,
  ⟨0x2C81, 0x2CE1⟩, ⟨0xA641, 0xA66B⟩, ⟨0xA67F, 0xA69B⟩, ⟨0xA723, 0xA72D⟩,
  ⟨0xA733, 0xA76F⟩, ⟨0xA77F, 0xA785⟩, ⟨0xA797, 0xA7A9⟩, ⟨0xA7B5, 0xA7C3⟩,
  ⟨0xA7CD, 0xA7DB⟩]

/-- Among the permitted characters, those of which no direction is known. -/
def unplacedRanges : List CodeRange := [
  ⟨0x88F, 0x897⟩, ⟨0xC5C, 0xC5C⟩, ⟨0xCDC, 0xCDC⟩, ⟨0xCF3, 0xCF3⟩,
  ⟨0xECE, 0xECE⟩, ⟨0x1ACF, 0x1AEB⟩, ⟨0x1C8A, 0x1C8A⟩, ⟨0xA7CD, 0xA7CF⟩,
  ⟨0xA7DB, 0xA7DB⟩, ⟨0x105C0, 0x105F3⟩, ⟨0x10940, 0x10959⟩, ⟨0x10D40, 0x10D85⟩,
  ⟨0x10EC2, 0x10EFF⟩, ⟨0x1123F, 0x11241⟩, ⟨0x11380, 0x113E2⟩, ⟨0x116D0, 0x116E3⟩,
  ⟨0x11B60, 0x11BF9⟩, ⟨0x11DB0, 0x11DE9⟩, ⟨0x11F00, 0x11F5A⟩, ⟨0x1342F, 0x143FA⟩,
  ⟨0x16100, 0x16139⟩, ⟨0x16D40, 0x16D79⟩, ⟨0x16EBB, 0x16ED3⟩, ⟨0x16FF2, 0x16FF3⟩,
  ⟨0x187F8, 0x187FF⟩, ⟨0x18CFF, 0x18CFF⟩, ⟨0x18D09, 0x18DF2⟩, ⟨0x1B132, 0x1B132⟩,
  ⟨0x1B155, 0x1B155⟩, ⟨0x1DF25, 0x1DF2A⟩, ⟨0x1E08F, 0x1E08F⟩, ⟨0x1E4D0, 0x1E6FF⟩,
  ⟨0x2B739, 0x2B73F⟩, ⟨0x2CEA2, 0x2CEAD⟩, ⟨0x2EBF0, 0x2EE5D⟩, ⟨0x31350, 0x33479⟩]

/-- Letters that are written from right to left, those of Arabic and its relatives apart. -/
def rightToLeftRanges : List CodeRange := [
  ⟨0x5D0, 0x5F4⟩, ⟨0x7C0, 0x858⟩, ⟨0x10800, 0x10CF2⟩, ⟨0x10E80, 0x10F27⟩,
  ⟨0x10F70, 0x10FF6⟩, ⟨0x1E800, 0x1E959⟩]

/-- Letters of Arabic and its relatives. -/
def arabicRanges : List CodeRange := [
  ⟨0x620, 0x64A⟩, ⟨0x66E, 0x6EF⟩, ⟨0x6FA, 0x7B1⟩, ⟨0x860, 0x8C9⟩,
  ⟨0xFE73, 0xFE73⟩, ⟨0x10D00, 0x10D23⟩, ⟨0x10F30, 0x10F45⟩]

/-- Characters without a direction of their own. -/
def undirectedRanges : List CodeRange := [
  ⟨0xB7, 0xB7⟩, ⟨0x2B9, 0x2BA⟩, ⟨0x2C6, 0x2CF⟩, ⟨0x2EC, 0x2EC⟩,
  ⟨0x375, 0x375⟩, ⟨0x2E2F, 0x2E2F⟩, ⟨0x30FB, 0x30FB⟩, ⟨0xA67F, 0xA67F⟩,
  ⟨0xA717, 0xA71F⟩, ⟨0xA788, 0xA788⟩]

/-- Marks without room of their own that have the direction of letters. -/
def spokenMarkRanges : List CodeRange := [
  ⟨0xCBF, 0xCBF⟩, ⟨0xCC6, 0xCC6⟩, ⟨0x11A07, 0x11A08⟩, ⟨0x11C3F, 0x11C3F⟩]

/-- Letters that join the letters on either side. -/
def joiningBothRanges : List CodeRange := [
  ⟨0x620, 0x620⟩, ⟨0x626, 0x626⟩, ⟨0x628, 0x628⟩, ⟨0x62A, 0x62E⟩,
  ⟨0x633, 0x63F⟩, ⟨0x641, 0x647⟩, ⟨0x649, 0x64A⟩, ⟨0x66E, 0x66F⟩,
  ⟨0x678, 0x687⟩, ⟨0x69A, 0x6BF⟩, ⟨0x6C1, 0x6C2⟩, ⟨0x6CC, 0x6CC⟩,
  ⟨0x6CE, 0x6CE⟩, ⟨0x6D0, 0x6D1⟩, ⟨0x6FA, 0x6FC⟩, ⟨0x6FF, 0x6FF⟩,
  ⟨0x712, 0x714⟩, ⟨0x71A, 0x71D⟩, ⟨0x71F, 0x727⟩, ⟨0x729, 0x729⟩,
  ⟨0x72B, 0x72B⟩, ⟨0x72D, 0x72E⟩, ⟨0x74E, 0x758⟩, ⟨0x75C, 0x76A⟩,
  ⟨0x76D, 0x770⟩, ⟨0x772, 0x772⟩, ⟨0x775, 0x777⟩, ⟨0x77A, 0x77F⟩,
  ⟨0x7CA, 0x7EA⟩, ⟨0x841, 0x845⟩, ⟨0x848, 0x848⟩, ⟨0x84A, 0x853⟩,
  ⟨0x855, 0x855⟩, ⟨0x860, 0x860⟩, ⟨0x862, 0x865⟩, ⟨0x868, 0x868⟩,
  ⟨0x886, 0x886⟩, ⟨0x889, 0x88D⟩, ⟨0x88F, 0x88F⟩, ⟨0x8A0, 0x8A9⟩,
  ⟨0x8AF, 0x8B0⟩, ⟨0x8B3, 0x8B8⟩, ⟨0x8BA, 0x8C8⟩, ⟨0x1807, 0x1807⟩,
  ⟨0x1820, 0x1878⟩, ⟨0x1887, 0x18A8⟩, ⟨0x18AA, 0x18AA⟩, ⟨0xA840, 0xA871⟩,
  ⟨0x10AC0, 0x10AC4⟩, ⟨0x10AD3, 0x10AD6⟩, ⟨0x10AD8, 0x10ADC⟩, ⟨0x10ADE, 0x10AE0⟩,
  ⟨0x10AEB, 0x10AEE⟩, ⟨0x10B80, 0x10B80⟩, ⟨0x10B82, 0x10B82⟩, ⟨0x10B86, 0x10B88⟩,
  ⟨0x10B8A, 0x10B8B⟩, ⟨0x10B8D, 0x10B8D⟩, ⟨0x10B90, 0x10B90⟩, ⟨0x10BAD, 0x10BAE⟩,
  ⟨0x10D01, 0x10D21⟩, ⟨0x10D23, 0x10D23⟩, ⟨0x10EC3, 0x10EC4⟩, ⟨0x10EC6, 0x10EC7⟩,
  ⟨0x10F30, 0x10F32⟩, ⟨0x10F34, 0x10F44⟩, ⟨0x10F51, 0x10F53⟩, ⟨0x10F70, 0x10F73⟩,
  ⟨0x10F76, 0x10F81⟩, ⟨0x10FB0, 0x10FB0⟩, ⟨0x10FB2, 0x10FB3⟩, ⟨0x10FB8, 0x10FB8⟩,
  ⟨0x10FBB, 0x10FBC⟩, ⟨0x10FBE, 0x10FBF⟩, ⟨0x10FC1, 0x10FC1⟩, ⟨0x10FC4, 0x10FC4⟩,
  ⟨0x10FCA, 0x10FCA⟩, ⟨0x1E900, 0x1E943⟩]

/-- Letters that join the letter behind them only. -/
def joiningBehindRanges : List CodeRange := [
  ⟨0xA872, 0xA872⟩, ⟨0x10ACD, 0x10ACD⟩, ⟨0x10AD7, 0x10AD7⟩, ⟨0x10D00, 0x10D00⟩,
  ⟨0x10FCB, 0x10FCB⟩]

/-- Letters that join the letter before them only. -/
def joiningBeforeRanges : List CodeRange := [
  ⟨0x622, 0x625⟩, ⟨0x627, 0x627⟩, ⟨0x629, 0x629⟩, ⟨0x62F, 0x632⟩,
  ⟨0x648, 0x648⟩, ⟨0x671, 0x673⟩, ⟨0x675, 0x677⟩, ⟨0x688, 0x699⟩,
  ⟨0x6C0, 0x6C0⟩, ⟨0x6C3, 0x6CB⟩, ⟨0x6CD, 0x6CD⟩, ⟨0x6CF, 0x6CF⟩,
  ⟨0x6D2, 0x6D3⟩, ⟨0x6D5, 0x6D5⟩, ⟨0x6EE, 0x6EF⟩, ⟨0x710, 0x710⟩,
  ⟨0x715, 0x719⟩, ⟨0x71E, 0x71E⟩, ⟨0x728, 0x728⟩, ⟨0x72A, 0x72A⟩,
  ⟨0x72C, 0x72C⟩, ⟨0x72F, 0x72F⟩, ⟨0x74D, 0x74D⟩, ⟨0x759, 0x75B⟩,
  ⟨0x76B, 0x76C⟩, ⟨0x771, 0x771⟩, ⟨0x773, 0x774⟩, ⟨0x778, 0x779⟩,
  ⟨0x840, 0x840⟩, ⟨0x846, 0x847⟩, ⟨0x849, 0x849⟩, ⟨0x854, 0x854⟩,
  ⟨0x856, 0x858⟩, ⟨0x867, 0x867⟩, ⟨0x869, 0x86A⟩, ⟨0x870, 0x882⟩,
  ⟨0x88E, 0x88E⟩, ⟨0x8AA, 0x8AC⟩, ⟨0x8AE, 0x8AE⟩, ⟨0x8B1, 0x8B2⟩,
  ⟨0x8B9, 0x8B9⟩, ⟨0x10AC5, 0x10AC5⟩, ⟨0x10AC7, 0x10AC7⟩, ⟨0x10AC9, 0x10ACA⟩,
  ⟨0x10ACE, 0x10AD2⟩, ⟨0x10ADD, 0x10ADD⟩, ⟨0x10AE1, 0x10AE1⟩, ⟨0x10AE4, 0x10AE4⟩,
  ⟨0x10AEF, 0x10AEF⟩, ⟨0x10B81, 0x10B81⟩, ⟨0x10B83, 0x10B85⟩, ⟨0x10B89, 0x10B89⟩,
  ⟨0x10B8C, 0x10B8C⟩, ⟨0x10B8E, 0x10B8F⟩, ⟨0x10B91, 0x10B91⟩, ⟨0x10BA9, 0x10BAC⟩,
  ⟨0x10D22, 0x10D22⟩, ⟨0x10EC2, 0x10EC2⟩, ⟨0x10F33, 0x10F33⟩, ⟨0x10F54, 0x10F54⟩,
  ⟨0x10F74, 0x10F75⟩, ⟨0x10FB4, 0x10FB6⟩, ⟨0x10FB9, 0x10FBA⟩, ⟨0x10FBD, 0x10FBD⟩,
  ⟨0x10FC2, 0x10FC3⟩, ⟨0x10FC9, 0x10FC9⟩]

/-- Characters that joining passes over, the marks apart. -/
def transparentRanges : List CodeRange := [
  ⟨0xAD, 0xAD⟩, ⟨0x61C, 0x61C⟩, ⟨0x70F, 0x70F⟩, ⟨0x897, 0x897⟩,
  ⟨0xECE, 0xECE⟩, ⟨0x1ACF, 0x1ADD⟩, ⟨0x1AE0, 0x1AEB⟩, ⟨0x200B, 0x200B⟩,
  ⟨0x200E, 0x200F⟩, ⟨0x202A, 0x202E⟩, ⟨0x2060, 0x2064⟩, ⟨0x206A, 0x206F⟩,
  ⟨0xFEFF, 0xFEFF⟩, ⟨0xFFF9, 0xFFFB⟩, ⟨0x10D69, 0x10D6D⟩, ⟨0x10EFA, 0x10EFF⟩,
  ⟨0x11241, 0x11241⟩, ⟨0x113BB, 0x113C0⟩, ⟨0x113CE, 0x113CE⟩, ⟨0x113D0, 0x113D0⟩,
  ⟨0x113D2, 0x113D2⟩, ⟨0x113E1, 0x113E2⟩, ⟨0x11B60, 0x11B60⟩, ⟨0x11B62, 0x11B64⟩,
  ⟨0x11B66, 0x11B66⟩, ⟨0x11F00, 0x11F01⟩, ⟨0x11F36, 0x11F3A⟩, ⟨0x11F40, 0x11F40⟩,
  ⟨0x11F42, 0x11F42⟩, ⟨0x11F5A, 0x11F5A⟩, ⟨0x13430, 0x13440⟩, ⟨0x13447, 0x13455⟩,
  ⟨0x1611E, 0x16129⟩, ⟨0x1612D, 0x1612F⟩, ⟨0x1BCA0, 0x1BCA3⟩, ⟨0x1D173, 0x1D17A⟩,
  ⟨0x1E08F, 0x1E08F⟩, ⟨0x1E4EC, 0x1E4EF⟩, ⟨0x1E5EE, 0x1E5EF⟩, ⟨0x1E6E3, 0x1E6E3⟩,
  ⟨0x1E6E6, 0x1E6E6⟩, ⟨0x1E6EE, 0x1E6EF⟩, ⟨0x1E6F5, 0x1E6F5⟩, ⟨0x1E94B, 0x1E94B⟩,
  ⟨0xE0001, 0xE0001⟩, ⟨0xE0020, 0xE007F⟩]

/-- Marks without room of their own that joining does not pass over. -/
def opaqueMarkRanges : List CodeRange := [
  ⟨0x1171E, 0x1171E⟩]

/-- Characters of the Greek script. -/
def greekRanges : List CodeRange := [
  ⟨0x370, 0x373⟩, ⟨0x375, 0x377⟩, ⟨0x37A, 0x37D⟩, ⟨0x37F, 0x37F⟩,
  ⟨0x384, 0x384⟩, ⟨0x386, 0x386⟩, ⟨0x388, 0x38A⟩, ⟨0x38C, 0x38C⟩,
  ⟨0x38E, 0x3A1⟩, ⟨0x3A3, 0x3E1⟩, ⟨0x3F0, 0x3FF⟩, ⟨0x1D26, 0x1D2A⟩,
  ⟨0x1D5D, 0x1D61⟩, ⟨0x1D66, 0x1D6A⟩, ⟨0x1DBF, 0x1DBF⟩, ⟨0x1F00, 0x1F15⟩,
  ⟨0x1F18, 0x1F1D⟩, ⟨0x1F20, 0x1F45⟩, ⟨0x1F48, 0x1F4D⟩, ⟨0x1F50, 0x1F57⟩,
  ⟨0x1F59, 0x1F59⟩, ⟨0x1F5B, 0x1F5B⟩, ⟨0x1F5D, 0x1F5D⟩, ⟨0x1F5F, 0x1F7D⟩,
  ⟨0x1F80, 0x1FB4⟩, ⟨0x1FB6, 0x1FC4⟩, ⟨0x1FC6, 0x1FD3⟩, ⟨0x1FD6, 0x1FDB⟩,
  ⟨0x1FDD, 0x1FEF⟩, ⟨0x1FF2, 0x1FF4⟩, ⟨0x1FF6, 0x1FFE⟩, ⟨0x2126, 0x2126⟩,
  ⟨0xAB65, 0xAB65⟩, ⟨0x10140, 0x1018E⟩, ⟨0x101A0, 0x101A0⟩, ⟨0x1D200, 0x1D245⟩]

/-- Characters of the Hebrew script. -/
def hebrewRanges : List CodeRange := [
  ⟨0x591, 0x5C7⟩, ⟨0x5D0, 0x5EA⟩, ⟨0x5EF, 0x5F4⟩, ⟨0xFB1D, 0xFB36⟩,
  ⟨0xFB38, 0xFB3C⟩, ⟨0xFB3E, 0xFB3E⟩, ⟨0xFB40, 0xFB41⟩, ⟨0xFB43, 0xFB44⟩,
  ⟨0xFB46, 0xFB4F⟩]

/-- Characters of Hiragana, Katakana and Han. -/
def japaneseRanges : List CodeRange := [
  ⟨0x2E80, 0x2E99⟩, ⟨0x2E9B, 0x2EF3⟩, ⟨0x2F00, 0x2FD5⟩, ⟨0x3005, 0x3005⟩,
  ⟨0x3007, 0x3007⟩, ⟨0x3021, 0x3029⟩, ⟨0x3038, 0x303B⟩, ⟨0x3041, 0x3096⟩,
  ⟨0x309D, 0x309F⟩, ⟨0x30A1, 0x30FA⟩, ⟨0x30FD, 0x30FF⟩, ⟨0x31F0, 0x31FF⟩,
  ⟨0x32D0, 0x32FE⟩, ⟨0x3300, 0x3357⟩, ⟨0x3400, 0x4DBF⟩, ⟨0x4E00, 0x9FFF⟩,
  ⟨0xF900, 0xFA6D⟩, ⟨0xFA70, 0xFAD9⟩, ⟨0xFF66, 0xFF6F⟩, ⟨0xFF71, 0xFF9D⟩,
  ⟨0x16FE2, 0x16FE3⟩, ⟨0x16FF0, 0x16FF6⟩, ⟨0x1AFF0, 0x1AFF3⟩, ⟨0x1AFF5, 0x1AFFB⟩,
  ⟨0x1AFFD, 0x1AFFE⟩, ⟨0x1B000, 0x1B122⟩, ⟨0x1B132, 0x1B132⟩, ⟨0x1B150, 0x1B152⟩,
  ⟨0x1B155, 0x1B155⟩, ⟨0x1B164, 0x1B167⟩, ⟨0x1F200, 0x1F200⟩, ⟨0x20000, 0x2A6DF⟩,
  ⟨0x2A700, 0x2B81D⟩, ⟨0x2B820, 0x2CEAD⟩, ⟨0x2CEB0, 0x2EBE0⟩, ⟨0x2EBF0, 0x2EE5D⟩,
  ⟨0x2F800, 0x2FA1D⟩, ⟨0x30000, 0x3134A⟩, ⟨0x31350, 0x33479⟩]

end JsonQuery.Text
