import CallRegistry.Text.Mark

/-!
# Letters with a case, and what words pass over

Where a word ends is told by its letters that have a case.  Marks, and signs such
as apostrophes and points that stand inside of words, are passed over.
-/

namespace CallRegistry.Text

/-- The characters that have a case and are not passed over. -/
def casedRuns : List CodeRun :=
  [(0x41, 0x5a, 1), (0x61, 0x7a, 1), (0xaa, 0xaa, 1), (0xb5, 0xb5, 1),
   (0xba, 0xba, 1), (0xc0, 0xd6, 1), (0xd8, 0xf6, 1), (0xf8, 0x1ba, 1),
   (0x1bc, 0x1bf, 1), (0x1c4, 0x293, 1), (0x295, 0x2af, 1), (0x370, 0x373, 1),
   (0x376, 0x377, 1), (0x37b, 0x37d, 1), (0x37f, 0x37f, 1), (0x386, 0x386, 1),
   (0x388, 0x38a, 1), (0x38c, 0x38c, 1), (0x38e, 0x3a1, 1), (0x3a3, 0x3f5, 1),
   (0x3f7, 0x481, 1), (0x48a, 0x52f, 1), (0x531, 0x556, 1), (0x560, 0x588, 1),
   (0x10a0, 0x10c5, 1), (0x10c7, 0x10c7, 1), (0x10cd, 0x10cd, 1),
   (0x10d0, 0x10fa, 1), (0x10fd, 0x10ff, 1), (0x13a0, 0x13f5, 1),
   (0x13f8, 0x13fd, 1), (0x1c80, 0x1c88, 1), (0x1c90, 0x1cba, 1),
   (0x1cbd, 0x1cbf, 1), (0x1d00, 0x1d2b, 1), (0x1d6b, 0x1d77, 1),
   (0x1d79, 0x1d9a, 1), (0x1e00, 0x1f15, 1), (0x1f18, 0x1f1d, 1),
   (0x1f20, 0x1f45, 1), (0x1f48, 0x1f4d, 1), (0x1f50, 0x1f57, 1),
   (0x1f59, 0x1f5d, 2), (0x1f5f, 0x1f7d, 1), (0x1f80, 0x1fb4, 1),
   (0x1fb6, 0x1fbc, 1), (0x1fbe, 0x1fbe, 1), (0x1fc2, 0x1fc4, 1),
   (0x1fc6, 0x1fcc, 1), (0x1fd0, 0x1fd3, 1), (0x1fd6, 0x1fdb, 1),
   (0x1fe0, 0x1fec, 1), (0x1ff2, 0x1ff4, 1), (0x1ff6, 0x1ffc, 1),
   (0x2102, 0x2102, 1), (0x2107, 0x2107, 1), (0x210a, 0x2113, 1),
   (0x2115, 0x2115, 1), (0x2119, 0x211d, 1), (0x2124, 0x2128, 2),
   (0x212a, 0x212d, 1), (0x212f, 0x2134, 1), (0x2139, 0x2139, 1),
   (0x213c, 0x213f, 1), (0x2145, 0x2149, 1), (0x214e, 0x214e, 1),
   (0x2160, 0x217f, 1), (0x2183, 0x2184, 1), (0x24b6, 0x24e9, 1),
   (0x2c00, 0x2c7b, 1), (0x2c7e, 0x2ce4, 1), (0x2ceb, 0x2cee, 1),
   (0x2cf2, 0x2cf3, 1), (0x2d00, 0x2d25, 1), (0x2d27, 0x2d27, 1),
   (0x2d2d, 0x2d2d, 1), (0xa640, 0xa66d, 1), (0xa680, 0xa69b, 1),
   (0xa722, 0xa76f, 1), (0xa771, 0xa787, 1), (0xa78b, 0xa78e, 1),
   (0xa790, 0xa7ca, 1), (0xa7d0, 0xa7d1, 1), (0xa7d3, 0xa7d3, 1),
   (0xa7d5, 0xa7d9, 1), (0xa7f5, 0xa7f6, 1), (0xa7fa, 0xa7fa, 1),
   (0xab30, 0xab5a, 1), (0xab60, 0xab68, 1), (0xab70, 0xabbf, 1),
   (0xfb00, 0xfb06, 1), (0xfb13, 0xfb17, 1), (0xff21, 0xff3a, 1),
   (0xff41, 0xff5a, 1), (0x10400, 0x1044f, 1), (0x104b0, 0x104d3, 1),
   (0x104d8, 0x104fb, 1), (0x10570, 0x1057a, 1), (0x1057c, 0x1058a, 1),
   (0x1058c, 0x10592, 1), (0x10594, 0x10595, 1), (0x10597, 0x105a1, 1),
   (0x105a3, 0x105b1, 1), (0x105b3, 0x105b9, 1), (0x105bb, 0x105bc, 1),
   (0x10c80, 0x10cb2, 1), (0x10cc0, 0x10cf2, 1), (0x118a0, 0x118df, 1),
   (0x16e40, 0x16e7f, 1), (0x1d400, 0x1d454, 1), (0x1d456, 0x1d49c, 1),
   (0x1d49e, 0x1d49f, 1), (0x1d4a2, 0x1d4a2, 1), (0x1d4a5, 0x1d4a6, 1),
   (0x1d4a9, 0x1d4ac, 1), (0x1d4ae, 0x1d4b9, 1), (0x1d4bb, 0x1d4bb, 1),
   (0x1d4bd, 0x1d4c3, 1), (0x1d4c5, 0x1d505, 1), (0x1d507, 0x1d50a, 1),
   (0x1d50d, 0x1d514, 1), (0x1d516, 0x1d51c, 1), (0x1d51e, 0x1d539, 1),
   (0x1d53b, 0x1d53e, 1), (0x1d540, 0x1d544, 1), (0x1d546, 0x1d546, 1),
   (0x1d54a, 0x1d550, 1), (0x1d552, 0x1d6a5, 1), (0x1d6a8, 0x1d6c0, 1),
   (0x1d6c2, 0x1d6da, 1), (0x1d6dc, 0x1d6fa, 1), (0x1d6fc, 0x1d714, 1),
   (0x1d716, 0x1d734, 1), (0x1d736, 0x1d74e, 1), (0x1d750, 0x1d76e, 1),
   (0x1d770, 0x1d788, 1), (0x1d78a, 0x1d7a8, 1), (0x1d7aa, 0x1d7c2, 1),
   (0x1d7c4, 0x1d7cb, 1), (0x1df00, 0x1df09, 1), (0x1df0b, 0x1df1e, 1),
   (0x1df25, 0x1df2a, 1), (0x1e900, 0x1e943, 1), (0x1f130, 0x1f149, 1),
   (0x1f150, 0x1f169, 1), (0x1f170, 0x1f189, 1)]

/-- The characters that are passed over, marks that take no place of their own
apart. -/
def innerRuns : List CodeRun :=
  [(0x27, 0x27, 1), (0x2e, 0x2e, 1), (0x3a, 0x3a, 1), (0x5e, 0x60, 2),
   (0xa8, 0xa8, 1), (0xad, 0xaf, 2), (0xb4, 0xb4, 1), (0xb7, 0xb8, 1),
   (0x2b0, 0x2ff, 1), (0x374, 0x375, 1), (0x37a, 0x37a, 1), (0x384, 0x385, 1),
   (0x387, 0x387, 1), (0x559, 0x559, 1), (0x55f, 0x55f, 1), (0x5f4, 0x5f4, 1),
   (0x600, 0x605, 1), (0x61c, 0x61c, 1), (0x640, 0x640, 1), (0x6dd, 0x6dd, 1),
   (0x6e5, 0x6e6, 1), (0x70f, 0x70f, 1), (0x7f4, 0x7f5, 1), (0x7fa, 0x7fa, 1),
   (0x81a, 0x81a, 1), (0x824, 0x824, 1), (0x828, 0x828, 1), (0x888, 0x888, 1),
   (0x890, 0x891, 1), (0x8c9, 0x8c9, 1), (0x8e2, 0x8e2, 1), (0x971, 0x971, 1),
   (0xe46, 0xe46, 1), (0xec6, 0xec6, 1), (0x10fc, 0x10fc, 1),
   (0x17d7, 0x17d7, 1), (0x180e, 0x180e, 1), (0x1843, 0x1843, 1),
   (0x1aa7, 0x1aa7, 1), (0x1c78, 0x1c7d, 1), (0x1d2c, 0x1d6a, 1),
   (0x1d78, 0x1d78, 1), (0x1d9b, 0x1dbf, 1), (0x1fbd, 0x1fbd, 1),
   (0x1fbf, 0x1fc1, 1), (0x1fcd, 0x1fcf, 1), (0x1fdd, 0x1fdf, 1),
   (0x1fed, 0x1fef, 1), (0x1ffd, 0x1ffe, 1), (0x200b, 0x200f, 1),
   (0x2018, 0x2019, 1), (0x2024, 0x2024, 1), (0x2027, 0x2027, 1),
   (0x202a, 0x202e, 1), (0x2060, 0x2064, 1), (0x2066, 0x206f, 1),
   (0x2071, 0x2071, 1), (0x207f, 0x207f, 1), (0x2090, 0x209c, 1),
   (0x2c7c, 0x2c7d, 1), (0x2d6f, 0x2d6f, 1), (0x2e2f, 0x2e2f, 1),
   (0x3005, 0x3005, 1), (0x3031, 0x3035, 1), (0x303b, 0x303b, 1),
   (0x309b, 0x309e, 1), (0x30fc, 0x30fe, 1), (0xa015, 0xa015, 1),
   (0xa4f8, 0xa4fd, 1), (0xa60c, 0xa60c, 1), (0xa67f, 0xa67f, 1),
   (0xa69c, 0xa69d, 1), (0xa700, 0xa721, 1), (0xa770, 0xa770, 1),
   (0xa788, 0xa78a, 1), (0xa7f2, 0xa7f4, 1), (0xa7f8, 0xa7f9, 1),
   (0xa9cf, 0xa9cf, 1), (0xa9e6, 0xa9e6, 1), (0xaa70, 0xaa70, 1),
   (0xaadd, 0xaadd, 1), (0xaaf3, 0xaaf4, 1), (0xab5b, 0xab5f, 1),
   (0xab69, 0xab6b, 1), (0xfbb2, 0xfbc2, 1), (0xfe13, 0xfe13, 1),
   (0xfe52, 0xfe52, 1), (0xfe55, 0xfe55, 1), (0xfeff, 0xfeff, 1),
   (0xff07, 0xff07, 1), (0xff0e, 0xff0e, 1), (0xff1a, 0xff1a, 1),
   (0xff3e, 0xff40, 2), (0xff70, 0xff70, 1), (0xff9e, 0xff9f, 1),
   (0xffe3, 0xffe3, 1), (0xfff9, 0xfffb, 1), (0x10780, 0x10785, 1),
   (0x10787, 0x107b0, 1), (0x107b2, 0x107ba, 1), (0x110bd, 0x110bd, 1),
   (0x110cd, 0x110cd, 1), (0x13430, 0x1343f, 1), (0x16b40, 0x16b43, 1),
   (0x16f93, 0x16f9f, 1), (0x16fe0, 0x16fe1, 1), (0x16fe3, 0x16fe3, 1),
   (0x1aff0, 0x1aff3, 1), (0x1aff5, 0x1affb, 1), (0x1affd, 0x1affe, 1),
   (0x1bca0, 0x1bca3, 1), (0x1d173, 0x1d17a, 1), (0x1e030, 0x1e06d, 1),
   (0x1e137, 0x1e13d, 1), (0x1e4eb, 0x1e4eb, 1), (0x1e94b, 0x1e94b, 1),
   (0x1f3fb, 0x1f3ff, 1), (0xe0001, 0xe0001, 1), (0xe0020, 0xe007f, 1)]

def isCased (c : Char) : Bool :=
  inRuns casedRuns c.toNat

def isInner (c : Char) : Bool :=
  isNonspacing c || inRuns innerRuns c.toNat

/-- Whether the first character that is not passed over has a case. -/
def meetsCased (cs : List Char) : Bool :=
  (cs.find? fun c => !isInner c).any isCased

end CallRegistry.Text
