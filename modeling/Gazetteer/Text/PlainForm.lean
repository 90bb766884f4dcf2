/-!
# Plain forms of Latin letters and numbers

The ASCII spelling of letters with marks, of ligatures, of small capitals and of numbers in circles,
in brackets, raised, lowered or of full width. The table is asked after lowercasing and about
letters and numbers only, so it has neither the characters that lowercasing replaces nor
punctuation.
-/

namespace Gazetteer.Text

/-- Spellings, each with the code points that have it. -/
def plainForms : List (String × List Nat) :=
  [("(1)", [0x2474]),
   ("(10)", [0x247D]),
   ("(11)", [0x247E]),
   ("(12)", [0x247F]),
   ("(13)", [0x2480]),
   ("(14)", [0x2481]),
   ("(15)", [0x2482]),
   ("(16)", [0x2483]),
   ("(17)", [0x2484]),
   ("(18)", [0x2485]),
   ("(19)", [0x2486]),
   ("(2)", [0x2475]),
   ("(20)", [0x2487]),
   ("(3)", [0x2476]),
   ("(4)", [0x2477]),
   ("(5)", [0x2478]),
   ("(6)", [0x2479]),
   ("(7)", [0x247A]),
   ("(8)", [0x247B]),
   ("(9)", [0x247C]),
   ("0", [0x2070, 0x2080, 0x24EA, 0x24FF, 0xFF10]),
   ("1", [0xB9, 0x2081, 0x2460, 0x24F5, 0x2776, 0x2780, 0x278A, 0xFF11]),
   ("1.", [0x2488]),
   ("10", [0x2469, 0x24FE, 0x277F, 0x2789, 0x2793]),
   ("10.", [0x2491]),
   ("11", [0x246A, 0x24EB]),
   ("11.", [0x2492]),
   ("12", [0x246B, 0x24EC]),
   ("12.", [0x2493]),
   ("13", [0x246C, 0x24ED]),
   ("13.", [0x2494]),
   ("14", [0x246D, 0x24EE]),
   ("14.", [0x2495]),
   ("15", [0x246E, 0x24EF]),
   ("15.", [0x2496]),
   ("16", [0x246F, 0x24F0]),
   ("16.", [0x2497]),
   ("17", [0x2470, 0x24F1]),
   ("17.", [0x2498]),
   ("18", [0x2471, 0x24F2]),
   ("18.", [0x2499]),
   ("19", [0x2472, 0x24F3]),
   ("19.", [0x249A]),
   ("2", [0xB2, 0x2082, 0x2461, 0x24F6, 0x2777, 0x2781, 0x278B, 0xFF12]),
   ("2.", [0x2489]),
   ("20", [0x2473, 0x24F4]),
   ("20.", [0x249B]),
   ("3", [0xB3, 0x2083, 0x2462, 0x24F7, 0x2778, 0x2782, 0x278C, 0xFF13]),
   ("3.", [0x248A]),
   ("4", [0x2074, 0x2084, 0x2463, 0x24F8, 0x2779, 0x2783, 0x278D, 0xFF14]),
   ("4.", [0x248B]),
   ("5", [0x2075, 0x2085, 0x2464, 0x24F9, 0x277A, 0x2784, 0x278E, 0xFF15]),
   ("5.", [0x248C]),
   ("6", [0x2076, 0x2086, 0x2465, 0x24FA, 0x277B, 0x2785, 0x278F, 0xFF16]),
   ("6.", [0x248D]),
   ("7", [0x2077, 0x2087, 0x2466, 0x24FB, 0x277C, 0x2786, 0x2790, 0xFF17]),
   ("7.", [0x248E]),
   ("8", [0x2078, 0x2088, 0x2467, 0x24FC, 0x277D, 0x2787, 0x2791, 0xFF18]),
   ("8.", [0x248F]),
   ("9", [0x2079, 0x2089, 0x2468, 0x24FD, 0x277E, 0x2788, 0x2792, 0xFF19]),
   ("9.", [0x2490]),
   ("A", [0x1D00]),
   ("a", [0xE0, 0xE1, 0xE2, 0xE3, 0xE4, 0xE5, 0x101, 0x103, 0x105, 0x1CE, 0x1DF, 0x1E1, 0x1FB,
     0x201, 0x203, 0x227, 0x250, 0x259, 0x25A, 0x1D8F, 0x1D95, 0x1E01, 0x1E9A, 0x1EA1, 0x1EA3,
     0x1EA5, 0x1EA7, 0x1EA9, 0x1EAB, 0x1EAD, 0x1EAF, 0x1EB1, 0x1EB3, 0x1EB5, 0x1EB7, 0x2090,
     0x2094, 0x24D0, 0x2C65, 0xFF41]),
   ("aa", [0xA733]),
   ("AE", [0x1D01]),
   ("ae", [0xE6, 0x1E3, 0x1FD, 0x1D02]),
   ("ao", [0xA735]),
   ("au", [0xA737]),
   ("av", [0xA739, 0xA73B]),
   ("ay", [0xA73D]),
   ("B", [0x299, 0x1D03]),
   ("b", [0x180, 0x183, 0x253, 0x1D6C, 0x1D80, 0x1E03, 0x1E05, 0x1E07, 0x24D1, 0xFF42]),
   ("C", [0x297, 0x1D04]),
   ("c", [0xE7, 0x107, 0x109, 0x10B, 0x10D, 0x188, 0x23C, 0x255, 0x1E09, 0x2184, 0x24D2, 0xA73F,
     0xFF43]),
   ("D", [0x1D05, 0x1D06]),
   ("d", [0xF0, 0x10F, 0x111, 0x18C, 0x221, 0x256, 0x257, 0x1D6D, 0x1D81, 0x1D91, 0x1E0B,
     0x1E0D, 0x1E0F, 0x1E11, 0x1E13, 0x24D3, 0xA77A, 0xFF44]),
   ("db", [0x238]),
   ("dz", [0x1C6, 0x1F3, 0x2A3, 0x2A5]),
   ("E", [0x1D07, 0x2C7B]),
   ("e", [0xE8, 0xE9, 0xEA, 0xEB, 0x113, 0x115, 0x117, 0x119, 0x11B, 0x1DD, 0x205, 0x207, 0x229,
     0x247, 0x258, 0x25B, 0x25C, 0x25D, 0x25E, 0x29A, 0x1D08, 0x1D92, 0x1D93, 0x1D94, 0x1E15,
     0x1E17, 0x1E19, 0x1E1B, 0x1E1D, 0x1EB9, 0x1EBB, 0x1EBD, 0x1EBF, 0x1EC1, 0x1EC3, 0x1EC5,
     0x1EC7, 0x2091, 0x24D4, 0x2C78, 0xFF45]),
   ("F", [0xA730, 0xA7FB]),
   ("f", [0x192, 0x1D6E, 0x1D82, 0x1E1F, 0x1E9B, 0x24D5, 0xA77C, 0xFF46]),
   ("ff", [0xFB00]),
   ("ffi", [0xFB03]),
   ("ffl", [0xFB04]),
   ("fi", [0xFB01]),
   ("fl", [0xFB02]),
   ("G", [0x1E5, 0x1E7, 0x262, 0x29B]),
   ("g", [0x11D, 0x11F, 0x121, 0x123, 0x1F5, 0x260, 0x261, 0x1D77, 0x1D79, 0x1D83, 0x1E21,
     0x24D6, 0xA77F, 0xFF47]),
   ("H", [0x29C]),
   ("h", [0x125, 0x127, 0x21F, 0x265, 0x266, 0x2AE, 0x2AF, 0x1E23, 0x1E25, 0x1E27, 0x1E29,
     0x1E2B, 0x1E96, 0x24D7, 0x2C68, 0x2C76, 0xFF48]),
   ("hv", [0x195]),
   ("I", [0x26A, 0x1D7B, 0xA7FE]),
   ("i", [0xEC, 0xED, 0xEE, 0xEF, 0x129, 0x12B, 0x12D, 0x12F, 0x131, 0x1D0, 0x209, 0x20B, 0x268,
     0x1D09, 0x1D62, 0x1D7C, 0x1D96, 0x1E2D, 0x1E2F, 0x1EC9, 0x1ECB, 0x2071, 0x24D8, 0xFF49]),
   ("ij", [0x133]),
   ("J", [0x1D0A]),
   ("j", [0x135, 0x1F0, 0x237, 0x249, 0x25F, 0x284, 0x29D, 0x24D9, 0x2C7C, 0xFF4A]),
   ("K", [0x1D0B]),
   ("k", [0x137, 0x199, 0x1E9, 0x29E, 0x1D84, 0x1E31, 0x1E33, 0x1E35, 0x24DA, 0x2C6A, 0xA741,
     0xA743, 0xA745, 0xFF4B]),
   ("L", [0x29F, 0x1D0C]),
   ("l", [0x13A, 0x13C, 0x13E, 0x140, 0x142, 0x19A, 0x234, 0x26B, 0x26C, 0x26D, 0x1D85, 0x1E37,
     0x1E39, 0x1E3B, 0x1E3D, 0x24DB, 0x2C61, 0xA747, 0xA749, 0xA781, 0xFF4C]),
   ("lj", [0x1C9]),
   ("ll", [0x1EFB]),
   ("ls", [0x2AA]),
   ("lz", [0x2AB]),
   ("M", [0x1D0D, 0xA7FD, 0xA7FF]),
   ("m", [0x26F, 0x270, 0x271, 0x1D6F, 0x1D86, 0x1E3F, 0x1E41, 0x1E43, 0x24DC, 0xFF4D]),
   ("N", [0x274, 0x1D0E]),
   ("n", [0xF1, 0x144, 0x146, 0x148, 0x149, 0x14B, 0x19E, 0x1F9, 0x235, 0x272, 0x273, 0x1D70,
     0x1D87, 0x1E45, 0x1E47, 0x1E49, 0x1E4B, 0x207F, 0x24DD, 0xFF4E]),
   ("nj", [0x1CC]),
   ("O", [0x1D0F, 0x1D10]),
   ("o", [0xF2, 0xF3, 0xF4, 0xF5, 0xF6, 0xF8, 0x14D, 0x14F, 0x151, 0x1A1, 0x1D2, 0x1EB, 0x1ED,
     0x1FF, 0x20D, 0x20F, 0x22B, 0x22D, 0x22F, 0x231, 0x254, 0x275, 0x1D16, 0x1D17, 0x1D97,
     0x1E4D, 0x1E4F, 0x1E51, 0x1E53, 0x1ECD, 0x1ECF, 0x1ED1, 0x1ED3, 0x1ED5, 0x1ED7, 0x1ED9,
     0x1EDB, 0x1EDD, 0x1EDF, 0x1EE1, 0x1EE3, 0x2092, 0x24DE, 0x2C7A, 0xA74B, 0xA74D, 0xFF4F]),
   ("OE", [0x276]),
   ("oe", [0x153, 0x1D14]),
   ("oo", [0xA74F]),
   ("OU", [0x1D15]),
   ("ou", [0x223]),
   ("P", [0x1D18]),
   ("p", [0x1A5, 0x1D71, 0x1D7D, 0x1D88, 0x1E55, 0x1E57, 0x24DF, 0xA751, 0xA753, 0xA755, 0xA7FC,
     0xFF50]),
   ("q", [0x138, 0x24B, 0x2A0, 0x24E0, 0xA757, 0xA759, 0xFF51]),
   ("qp", [0x239]),
   ("R", [0x280, 0x281, 0x1D19, 0x1D1A]),
   ("r", [0x155, 0x157, 0x159, 0x211, 0x213, 0x24D, 0x27C, 0x27D, 0x27E, 0x27F, 0x1D63, 0x1D72,
     0x1D73, 0x1D89, 0x1E59, 0x1E5B, 0x1E5D, 0x1E5F, 0x24E1, 0xA75B, 0xA783, 0xFF52]),
   ("S", [0xA731, 0xA785]),
   ("s", [0x15B, 0x15D, 0x15F, 0x161, 0x17F, 0x219, 0x23F, 0x282, 0x1D74, 0x1D8A, 0x1E61,
     0x1E63, 0x1E65, 0x1E67, 0x1E69, 0x1E9C, 0x1E9D, 0x24E2, 0xFF53]),
   ("ss", [0xDF]),
   ("st", [0xFB06]),
   ("T", [0x1D1B]),
   ("t", [0x163, 0x165, 0x167, 0x1AB, 0x1AD, 0x21B, 0x236, 0x287, 0x288, 0x1D75, 0x1E6B, 0x1E6D,
     0x1E6F, 0x1E71, 0x1E97, 0x24E3, 0x2C66, 0xFF54]),
   ("tc", [0x2A8]),
   ("th", [0xFE, 0x1D7A, 0xA767]),
   ("ts", [0x2A6]),
   ("tz", [0xA729]),
   ("U", [0x1D1C, 0x1D7E]),
   ("u", [0xF9, 0xFA, 0xFB, 0xFC, 0x169, 0x16B, 0x16D, 0x16F, 0x171, 0x173, 0x1B0, 0x1D4, 0x1D6,
     0x1D8, 0x1DA, 0x1DC, 0x215, 0x217, 0x289, 0x1D64, 0x1D99, 0x1E73, 0x1E75, 0x1E77, 0x1E79,
     0x1E7B, 0x1EE5, 0x1EE7, 0x1EE9, 0x1EEB, 0x1EED, 0x1EEF, 0x1EF1, 0x24E4, 0xFF55]),
   ("ue", [0x1D6B]),
   ("V", [0x1D20]),
   ("v", [0x28B, 0x28C, 0x1D65, 0x1D8C, 0x1E7D, 0x1E7F, 0x24E5, 0x2C71, 0x2C74, 0xA75F, 0xFF56]),
   ("vy", [0xA761]),
   ("W", [0x1D21]),
   ("w", [0x175, 0x1BF, 0x28D, 0x1E81, 0x1E83, 0x1E85, 0x1E87, 0x1E89, 0x1E98, 0x24E6, 0x2C73,
     0xFF57]),
   ("x", [0x1D8D, 0x1E8B, 0x1E8D, 0x2093, 0x24E7, 0xFF58]),
   ("Y", [0x28F]),
   ("y", [0xFD, 0xFF, 0x177, 0x1B4, 0x233, 0x24F, 0x28E, 0x1E8F, 0x1E99, 0x1EF3, 0x1EF5, 0x1EF7,
     0x1EF9, 0x1EFF, 0x24E8, 0xFF59]),
   ("Z", [0x1D22]),
   ("z", [0x17A, 0x17C, 0x17E, 0x1B6, 0x21D, 0x225, 0x240, 0x290, 0x291, 0x1D76, 0x1D8E, 0x1E91,
     0x1E93, 0x1E95, 0x24E9, 0x2C6C, 0xA763, 0xFF5A])]

/-- **The plain form of a character**: its ASCII spelling where it has one, and itself otherwise. -/
def plainForm (c : Char) : List Char :=
  if c.toNat < 128 then [c]
  else
    match plainForms.find? (fun entry => entry.2.contains c.toNat) with
    | some entry => entry.1.toList
    | none => [c]

end Gazetteer.Text
