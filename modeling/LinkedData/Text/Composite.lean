import LinkedData.Text.Images

/-!
# LinkedData.Text.Composite -- characters that are made of others

A composite is the same as the characters it is made of, and is what these are put together
to. A replaced character is the same as its image too, but nothing is put together to it: it
is a second name of another character, or its script is written with the marks apart.

The syllables of Hangul are composites as well. There are too many for a table, and their
numbers tell what they are made of.
-/

namespace LinkedData.Text

/-- What composites are made of. -/
def compositeRows : List ImageRow := [
  (0xC0, "A\u0300 A\u0301 A\u0302 A\u0303 A\u0308 A\u030a  C\u0327 E\u0300 E\u0301"),
  (0xCA, "E\u0302 E\u0308 I\u0300 I\u0301 I\u0302 I\u0308  N\u0303 O\u0300 O\u0301"),
  (0xD4, "O\u0302 O\u0303 O\u0308   U\u0300 U\u0301 U\u0302 U\u0308 Y\u0301   a\u0300"),
  (0xE1, "a\u0301 a\u0302 a\u0303 a\u0308 a\u030a  c\u0327 e\u0300 e\u0301 e\u0302"),
  (0xEB, "e\u0308 i\u0300 i\u0301 i\u0302 i\u0308  n\u0303 o\u0300 o\u0301 o\u0302"),
  (0xF5, "o\u0303 o\u0308   u\u0300 u\u0301 u\u0302 u\u0308 y\u0301  y\u0308 A\u0304"),
  (0x101, "a\u0304 A\u0306 a\u0306 A\u0328 a\u0328 C\u0301 c\u0301 C\u0302 c\u0302"),
  (0x10A, "C\u0307 c\u0307 C\u030c c\u030c D\u030c d\u030c   E\u0304 e\u0304 E\u0306"),
  (0x115, "e\u0306 E\u0307 e\u0307 E\u0328 e\u0328 E\u030c e\u030c G\u0302 g\u0302"),
  (0x11E, "G\u0306 g\u0306 G\u0307 g\u0307 G\u0327 g\u0327 H\u0302 h\u0302   I\u0303"),
  (0x129, "i\u0303 I\u0304 i\u0304 I\u0306 i\u0306 I\u0328 i\u0328 I\u0307    J\u0302"),
  (0x135, "j\u0302 K\u0327 k\u0327  L\u0301 l\u0301 L\u0327 l\u0327 L\u030c l\u030c"),
  (0x143, "N\u0301 n\u0301 N\u0327 n\u0327 N\u030c n\u030c    O\u0304 o\u0304 O\u0306"),
  (0x14F, "o\u0306 O\u030b o\u030b   R\u0301 r\u0301 R\u0327 r\u0327 R\u030c r\u030c"),
  (0x15A, "S\u0301 s\u0301 S\u0302 s\u0302 S\u0327 s\u0327 S\u030c s\u030c T\u0327"),
  (0x163, "t\u0327 T\u030c t\u030c   U\u0303 u\u0303 U\u0304 u\u0304 U\u0306 u\u0306"),
  (0x16E, "U\u030a u\u030a U\u030b u\u030b U\u0328 u\u0328 W\u0302 w\u0302 Y\u0302"),
  (0x177, "y\u0302 Y\u0308 Z\u0301 z\u0301 Z\u0307 z\u0307 Z\u030c z\u030c"),
  (0x1A0, "O\u031b o\u031b"),
  (0x1AF, "U\u031b u\u031b"),
  (0x1CD, "A\u030c a\u030c I\u030c i\u030c O\u030c o\u030c U\u030c u\u030c U\u0308\u0304"),
  (0x1D6, "u\u0308\u0304 U\u0308\u0301 u\u0308\u0301 U\u0308\u030c u\u0308\u030c"),
  (0x1DB, "U\u0308\u0300 u\u0308\u0300  A\u0308\u0304 a\u0308\u0304 A\u0307\u0304"),
  (0x1E1, "a\u0307\u0304 Æ\u0304 æ\u0304   G\u030c g\u030c K\u030c k\u030c O\u0328"),
  (0x1EB, "o\u0328 O\u0328\u0304 o\u0328\u0304 Ʒ\u030c ʒ\u030c j\u030c    G\u0301 g\u0301"),
  (0x1F8, "N\u0300 n\u0300 A\u030a\u0301 a\u030a\u0301 Æ\u0301 æ\u0301 Ø\u0301 ø\u0301"),
  (0x200, "A\u030f a\u030f A\u0311 a\u0311 E\u030f e\u030f E\u0311 e\u0311 I\u030f"),
  (0x209, "i\u030f I\u0311 i\u0311 O\u030f o\u030f O\u0311 o\u0311 R\u030f r\u030f"),
  (0x212, "R\u0311 r\u0311 U\u030f u\u030f U\u0311 u\u0311 S\u0326 s\u0326 T\u0326"),
  (0x21B, "t\u0326   H\u030c h\u030c"),
  (0x226, "A\u0307 a\u0307 E\u0327 e\u0327 O\u0308\u0304 o\u0308\u0304 O\u0303\u0304"),
  (0x22D, "o\u0303\u0304 O\u0307 o\u0307 O\u0307\u0304 o\u0307\u0304 Y\u0304 y\u0304"),
  (0x385, "¨\u0301 Α\u0301  Ε\u0301 Η\u0301 Ι\u0301  Ο\u0301  Υ\u0301 Ω\u0301"),
  (0x390, "ι\u0308\u0301"),
  (0x3AA, "Ι\u0308 Υ\u0308 α\u0301 ε\u0301 η\u0301 ι\u0301 υ\u0308\u0301"),
  (0x3CA, "ι\u0308 υ\u0308 ο\u0301 υ\u0301 ω\u0301"),
  (0x3D3, "ϒ\u0301 ϒ\u0308"),
  (0x400, "Е\u0300 Е\u0308  Г\u0301    І\u0308"),
  (0x40C, "К\u0301 И\u0300 У\u0306"),
  (0x419, "И\u0306"),
  (0x439, "и\u0306"),
  (0x450, "е\u0300 е\u0308  г\u0301    і\u0308"),
  (0x45C, "к\u0301 и\u0300 у\u0306"),
  (0x476, "Ѵ\u030f ѵ\u030f"),
  (0x4C1, "Ж\u0306 ж\u0306"),
  (0x4D0, "А\u0306 а\u0306 А\u0308 а\u0308   Е\u0306 е\u0306   Ә\u0308 ә\u0308 Ж\u0308"),
  (0x4DD, "ж\u0308 З\u0308 з\u0308   И\u0304 и\u0304 И\u0308 и\u0308 О\u0308 о\u0308"),
  (0x4EA, "Ө\u0308 ө\u0308 Э\u0308 э\u0308 У\u0304 у\u0304 У\u0308 у\u0308 У\u030b"),
  (0x4F3, "у\u030b Ч\u0308 ч\u0308   Ы\u0308 ы\u0308"),
  (0x622, "ا\u0653 ا\u0654 و\u0654 ا\u0655 ي\u0654"),
  (0x6C0, "ە\u0654  ہ\u0654"),
  (0x6D3, "ے\u0654"),
  (0x929, "न\u093c"),
  (0x931, "र\u093c   ळ\u093c"),
  (0x9CB, "\u09c7\u09be \u09c7\u09d7"),
  (0xB48, "\u0b47\u0b56   \u0b47\u0b3e \u0b47\u0b57"),
  (0xB94, "ஒ\u0bd7"),
  (0xBCA, "\u0bc6\u0bbe \u0bc7\u0bbe \u0bc6\u0bd7"),
  (0xC48, "\u0c46\u0c56"),
  (0xCC0, "\u0cbf\u0cd5"),
  (0xCC7, "\u0cc6\u0cd5 \u0cc6\u0cd6  \u0cc6\u0cc2 \u0cc6\u0cc2\u0cd5"),
  (0xD4A, "\u0d46\u0d3e \u0d47\u0d3e \u0d46\u0d57"),
  (0xDDA, "\u0dd9\u0dca  \u0dd9\u0dcf \u0dd9\u0dcf\u0dca \u0dd9\u0ddf"),
  (0x1026, "ဥ\u102e"),
  (0x1B06, "ᬅ\u1b35  ᬇ\u1b35  ᬉ\u1b35  ᬋ\u1b35  ᬍ\u1b35    ᬑ\u1b35"),
  (0x1B3B, "\u1b3a\u1b35  \u1b3c\u1b35   \u1b3e\u1b35 \u1b3f\u1b35  \u1b42\u1b35"),
  (0x1E00, "A\u0325 a\u0325 B\u0307 b\u0307 B\u0323 b\u0323 B\u0331 b\u0331 C\u0327\u0301"),
  (0x1E09, "c\u0327\u0301 D\u0307 d\u0307 D\u0323 d\u0323 D\u0331 d\u0331 D\u0327 d\u0327"),
  (0x1E12, "D\u032d d\u032d E\u0304\u0300 e\u0304\u0300 E\u0304\u0301 e\u0304\u0301"),
  (0x1E18, "E\u032d e\u032d E\u0330 e\u0330 E\u0327\u0306 e\u0327\u0306 F\u0307 f\u0307"),
  (0x1E20, "G\u0304 g\u0304 H\u0307 h\u0307 H\u0323 h\u0323 H\u0308 h\u0308 H\u0327"),
  (0x1E29, "h\u0327 H\u032e h\u032e I\u0330 i\u0330 I\u0308\u0301 i\u0308\u0301 K\u0301"),
  (0x1E31, "k\u0301 K\u0323 k\u0323 K\u0331 k\u0331 L\u0323 l\u0323 L\u0323\u0304"),
  (0x1E39, "l\u0323\u0304 L\u0331 l\u0331 L\u032d l\u032d M\u0301 m\u0301 M\u0307 m\u0307"),
  (0x1E42, "M\u0323 m\u0323 N\u0307 n\u0307 N\u0323 n\u0323 N\u0331 n\u0331 N\u032d"),
  (0x1E4B, "n\u032d O\u0303\u0301 o\u0303\u0301 O\u0303\u0308 o\u0303\u0308 O\u0304\u0300"),
  (0x1E51, "o\u0304\u0300 O\u0304\u0301 o\u0304\u0301 P\u0301 p\u0301 P\u0307 p\u0307"),
  (0x1E58, "R\u0307 r\u0307 R\u0323 r\u0323 R\u0323\u0304 r\u0323\u0304 R\u0331 r\u0331"),
  (0x1E60, "S\u0307 s\u0307 S\u0323 s\u0323 S\u0301\u0307 s\u0301\u0307 S\u030c\u0307"),
  (0x1E67, "s\u030c\u0307 S\u0323\u0307 s\u0323\u0307 T\u0307 t\u0307 T\u0323 t\u0323"),
  (0x1E6E, "T\u0331 t\u0331 T\u032d t\u032d U\u0324 u\u0324 U\u0330 u\u0330 U\u032d"),
  (0x1E77, "u\u032d U\u0303\u0301 u\u0303\u0301 U\u0304\u0308 u\u0304\u0308 V\u0303"),
  (0x1E7D, "v\u0303 V\u0323 v\u0323 W\u0300 w\u0300 W\u0301 w\u0301 W\u0308 w\u0308"),
  (0x1E86, "W\u0307 w\u0307 W\u0323 w\u0323 X\u0307 x\u0307 X\u0308 x\u0308 Y\u0307"),
  (0x1E8F, "y\u0307 Z\u0302 z\u0302 Z\u0323 z\u0323 Z\u0331 z\u0331 h\u0331 t\u0308"),
  (0x1E98, "w\u030a y\u030a  ſ\u0307"),
  (0x1EA0, "A\u0323 a\u0323 A\u0309 a\u0309 A\u0302\u0301 a\u0302\u0301 A\u0302\u0300"),
  (0x1EA7, "a\u0302\u0300 A\u0302\u0309 a\u0302\u0309 A\u0302\u0303 a\u0302\u0303"),
  (0x1EAC, "A\u0323\u0302 a\u0323\u0302 A\u0306\u0301 a\u0306\u0301 A\u0306\u0300"),
  (0x1EB1, "a\u0306\u0300 A\u0306\u0309 a\u0306\u0309 A\u0306\u0303 a\u0306\u0303"),
  (0x1EB6, "A\u0323\u0306 a\u0323\u0306 E\u0323 e\u0323 E\u0309 e\u0309 E\u0303 e\u0303"),
  (0x1EBE, "E\u0302\u0301 e\u0302\u0301 E\u0302\u0300 e\u0302\u0300 E\u0302\u0309"),
  (0x1EC3, "e\u0302\u0309 E\u0302\u0303 e\u0302\u0303 E\u0323\u0302 e\u0323\u0302 I\u0309"),
  (0x1EC9, "i\u0309 I\u0323 i\u0323 O\u0323 o\u0323 O\u0309 o\u0309 O\u0302\u0301"),
  (0x1ED1, "o\u0302\u0301 O\u0302\u0300 o\u0302\u0300 O\u0302\u0309 o\u0302\u0309"),
  (0x1ED6, "O\u0302\u0303 o\u0302\u0303 O\u0323\u0302 o\u0323\u0302 O\u031b\u0301"),
  (0x1EDB, "o\u031b\u0301 O\u031b\u0300 o\u031b\u0300 O\u031b\u0309 o\u031b\u0309"),
  (0x1EE0, "O\u031b\u0303 o\u031b\u0303 O\u031b\u0323 o\u031b\u0323 U\u0323 u\u0323"),
  (0x1EE6, "U\u0309 u\u0309 U\u031b\u0301 u\u031b\u0301 U\u031b\u0300 u\u031b\u0300"),
  (0x1EEC, "U\u031b\u0309 u\u031b\u0309 U\u031b\u0303 u\u031b\u0303 U\u031b\u0323"),
  (0x1EF1, "u\u031b\u0323 Y\u0300 y\u0300 Y\u0323 y\u0323 Y\u0309 y\u0309 Y\u0303 y\u0303"),
  (0x1F00, "α\u0313 α\u0314 α\u0313\u0300 α\u0314\u0300 α\u0313\u0301 α\u0314\u0301"),
  (0x1F06, "α\u0313\u0342 α\u0314\u0342 Α\u0313 Α\u0314 Α\u0313\u0300 Α\u0314\u0300"),
  (0x1F0C, "Α\u0313\u0301 Α\u0314\u0301 Α\u0313\u0342 Α\u0314\u0342 ε\u0313 ε\u0314"),
  (0x1F12, "ε\u0313\u0300 ε\u0314\u0300 ε\u0313\u0301 ε\u0314\u0301   Ε\u0313 Ε\u0314"),
  (0x1F1A, "Ε\u0313\u0300 Ε\u0314\u0300 Ε\u0313\u0301 Ε\u0314\u0301   η\u0313 η\u0314"),
  (0x1F22, "η\u0313\u0300 η\u0314\u0300 η\u0313\u0301 η\u0314\u0301 η\u0313\u0342"),
  (0x1F27, "η\u0314\u0342 Η\u0313 Η\u0314 Η\u0313\u0300 Η\u0314\u0300 Η\u0313\u0301"),
  (0x1F2D, "Η\u0314\u0301 Η\u0313\u0342 Η\u0314\u0342 ι\u0313 ι\u0314 ι\u0313\u0300"),
  (0x1F33, "ι\u0314\u0300 ι\u0313\u0301 ι\u0314\u0301 ι\u0313\u0342 ι\u0314\u0342 Ι\u0313"),
  (0x1F39, "Ι\u0314 Ι\u0313\u0300 Ι\u0314\u0300 Ι\u0313\u0301 Ι\u0314\u0301 Ι\u0313\u0342"),
  (0x1F3F, "Ι\u0314\u0342 ο\u0313 ο\u0314 ο\u0313\u0300 ο\u0314\u0300 ο\u0313\u0301"),
  (0x1F45, "ο\u0314\u0301   Ο\u0313 Ο\u0314 Ο\u0313\u0300 Ο\u0314\u0300 Ο\u0313\u0301"),
  (0x1F4D, "Ο\u0314\u0301   υ\u0313 υ\u0314 υ\u0313\u0300 υ\u0314\u0300 υ\u0313\u0301"),
  (0x1F55, "υ\u0314\u0301 υ\u0313\u0342 υ\u0314\u0342  Υ\u0314  Υ\u0314\u0300"),
  (0x1F5D, "Υ\u0314\u0301  Υ\u0314\u0342 ω\u0313 ω\u0314 ω\u0313\u0300 ω\u0314\u0300"),
  (0x1F64, "ω\u0313\u0301 ω\u0314\u0301 ω\u0313\u0342 ω\u0314\u0342 Ω\u0313 Ω\u0314"),
  (0x1F6A, "Ω\u0313\u0300 Ω\u0314\u0300 Ω\u0313\u0301 Ω\u0314\u0301 Ω\u0313\u0342"),
  (0x1F6F, "Ω\u0314\u0342 α\u0300  ε\u0300  η\u0300  ι\u0300  ο\u0300  υ\u0300  ω\u0300"),
  (0x1F80, "α\u0313\u0345 α\u0314\u0345 α\u0313\u0300\u0345 α\u0314\u0300\u0345"),
  (0x1F84, "α\u0313\u0301\u0345 α\u0314\u0301\u0345 α\u0313\u0342\u0345"),
  (0x1F87, "α\u0314\u0342\u0345 Α\u0313\u0345 Α\u0314\u0345 Α\u0313\u0300\u0345"),
  (0x1F8B, "Α\u0314\u0300\u0345 Α\u0313\u0301\u0345 Α\u0314\u0301\u0345"),
  (0x1F8E, "Α\u0313\u0342\u0345 Α\u0314\u0342\u0345 η\u0313\u0345 η\u0314\u0345"),
  (0x1F92, "η\u0313\u0300\u0345 η\u0314\u0300\u0345 η\u0313\u0301\u0345"),
  (0x1F95, "η\u0314\u0301\u0345 η\u0313\u0342\u0345 η\u0314\u0342\u0345 Η\u0313\u0345"),
  (0x1F99, "Η\u0314\u0345 Η\u0313\u0300\u0345 Η\u0314\u0300\u0345 Η\u0313\u0301\u0345"),
  (0x1F9D, "Η\u0314\u0301\u0345 Η\u0313\u0342\u0345 Η\u0314\u0342\u0345 ω\u0313\u0345"),
  (0x1FA1, "ω\u0314\u0345 ω\u0313\u0300\u0345 ω\u0314\u0300\u0345 ω\u0313\u0301\u0345"),
  (0x1FA5, "ω\u0314\u0301\u0345 ω\u0313\u0342\u0345 ω\u0314\u0342\u0345 Ω\u0313\u0345"),
  (0x1FA9, "Ω\u0314\u0345 Ω\u0313\u0300\u0345 Ω\u0314\u0300\u0345 Ω\u0313\u0301\u0345"),
  (0x1FAD, "Ω\u0314\u0301\u0345 Ω\u0313\u0342\u0345 Ω\u0314\u0342\u0345 α\u0306 α\u0304"),
  (0x1FB2, "α\u0300\u0345 α\u0345 α\u0301\u0345  α\u0342 α\u0342\u0345 Α\u0306 Α\u0304"),
  (0x1FBA, "Α\u0300  Α\u0345"),
  (0x1FC1, "¨\u0342 η\u0300\u0345 η\u0345 η\u0301\u0345  η\u0342 η\u0342\u0345 Ε\u0300"),
  (0x1FCA, "Η\u0300  Η\u0345 ᾿\u0300 ᾿\u0301 ᾿\u0342 ι\u0306 ι\u0304 ι\u0308\u0300"),
  (0x1FD6, "ι\u0342 ι\u0308\u0342 Ι\u0306 Ι\u0304 Ι\u0300   ῾\u0300 ῾\u0301 ῾\u0342"),
  (0x1FE0, "υ\u0306 υ\u0304 υ\u0308\u0300  ρ\u0313 ρ\u0314 υ\u0342 υ\u0308\u0342 Υ\u0306"),
  (0x1FE9, "Υ\u0304 Υ\u0300  Ρ\u0314 ¨\u0300"),
  (0x1FF2, "ω\u0300\u0345 ω\u0345 ω\u0301\u0345  ω\u0342 ω\u0342\u0345 Ο\u0300  Ω\u0300"),
  (0x1FFC, "Ω\u0345"),
  (0x219A, "←\u0338 →\u0338"),
  (0x21AE, "↔\u0338"),
  (0x21CD, "⇐\u0338 ⇔\u0338 ⇒\u0338"),
  (0x2204, "∃\u0338"),
  (0x2209, "∈\u0338   ∋\u0338"),
  (0x2224, "∣\u0338  ∥\u0338"),
  (0x2241, "∼\u0338   ≃\u0338   ≅\u0338  ≈\u0338"),
  (0x2260, "=\u0338  ≡\u0338"),
  (0x226D, "≍\u0338 <\u0338 >\u0338 ≤\u0338 ≥\u0338   ≲\u0338 ≳\u0338   ≶\u0338 ≷\u0338"),
  (0x2280, "≺\u0338 ≻\u0338   ⊂\u0338 ⊃\u0338   ⊆\u0338 ⊇\u0338"),
  (0x22AC, "⊢\u0338 ⊨\u0338 ⊩\u0338 ⊫\u0338"),
  (0x22E0, "≼\u0338 ≽\u0338 ⊑\u0338 ⊒\u0338"),
  (0x22EA, "⊲\u0338 ⊳\u0338 ⊴\u0338 ⊵\u0338"),
  (0x304C, "か\u3099  き\u3099  く\u3099  け\u3099  こ\u3099  さ\u3099  し\u3099  す\u3099"),
  (0x305C, "せ\u3099  そ\u3099  た\u3099  ち\u3099   つ\u3099  て\u3099  と\u3099"),
  (0x3070, "は\u3099 は\u309a  ひ\u3099 ひ\u309a  ふ\u3099 ふ\u309a  へ\u3099 へ\u309a  ほ\u3099"),
  (0x307D, "ほ\u309a"),
  (0x3094, "う\u3099"),
  (0x309E, "ゝ\u3099"),
  (0x30AC, "カ\u3099  キ\u3099  ク\u3099  ケ\u3099  コ\u3099  サ\u3099  シ\u3099  ス\u3099"),
  (0x30BC, "セ\u3099  ソ\u3099  タ\u3099  チ\u3099   ツ\u3099  テ\u3099  ト\u3099"),
  (0x30D0, "ハ\u3099 ハ\u309a  ヒ\u3099 ヒ\u309a  フ\u3099 フ\u309a  ヘ\u3099 ヘ\u309a  ホ\u3099"),
  (0x30DD, "ホ\u309a"),
  (0x30F4, "ウ\u3099   ワ\u3099 ヰ\u3099 ヱ\u3099 ヲ\u3099    ヽ\u3099"),
  (0x105C9, "𐗒\u0307"),
  (0x105E4, "𐗚\u0307"),
  (0x1109A, "𑂚  𑂜"),
  (0x110AB, "𑂫"),
  (0x1112E, "𑄮 𑄯"),
  (0x1134B, "𑍋 𑍌"),
  (0x11383, "𑎃  𑎅"),
  (0x1138E, "𑎎   𑎑"),
  (0x113C5, "𑏅  𑏇 𑏈"),
  (0x114BB, "𑒻 𑒼  𑒾"),
  (0x115BA, "𑖺 𑖻"),
  (0x11938, "𑤸"),
  (0x16121, "𖄡 𖄢 𖄣 𖄤 𖄥 𖄦 𖄧 𖄨"),
  (0x16D68, "𖵨 𖵩 𖵪")]

/-- What stands for replaced characters. -/
def replacedRows : List ImageRow := [
  (0x340, "\u0300 \u0301  \u0313 \u0308\u0301"),
  (0x374, "ʹ"),
  (0x37E, ";"),
  (0x387, "·"),
  (0x958, "क\u093c ख\u093c ग\u093c ज\u093c ड\u093c ढ\u093c फ\u093c य\u093c"),
  (0x9DC, "ড\u09bc ঢ\u09bc  য\u09bc"),
  (0xA33, "ਲ\u0a3c   ਸ\u0a3c"),
  (0xA59, "ਖ\u0a3c ਗ\u0a3c ਜ\u0a3c   ਫ\u0a3c"),
  (0xB5C, "ଡ\u0b3c ଢ\u0b3c"),
  (0xF43, "ག\u0fb7"),
  (0xF4D, "ཌ\u0fb7"),
  (0xF52, "ད\u0fb7"),
  (0xF57, "བ\u0fb7"),
  (0xF5C, "ཛ\u0fb7"),
  (0xF69, "ཀ\u0fb5"),
  (0xF73, "\u0f71\u0f72  \u0f71\u0f74 \u0fb2\u0f80  \u0fb3\u0f80"),
  (0xF81, "\u0f71\u0f80"),
  (0xF93, "\u0f92\u0fb7"),
  (0xF9D, "\u0f9c\u0fb7"),
  (0xFA2, "\u0fa1\u0fb7"),
  (0xFA7, "\u0fa6\u0fb7"),
  (0xFAC, "\u0fab\u0fb7"),
  (0xFB9, "\u0f90\u0fb5"),
  (0x1F71, "α\u0301  ε\u0301  η\u0301  ι\u0301  ο\u0301  υ\u0301  ω\u0301"),
  (0x1FBB, "Α\u0301   ι"),
  (0x1FC9, "Ε\u0301  Η\u0301"),
  (0x1FD3, "ι\u0308\u0301"),
  (0x1FDB, "Ι\u0301"),
  (0x1FE3, "υ\u0308\u0301"),
  (0x1FEB, "Υ\u0301   ¨\u0301 \x60"),
  (0x1FF9, "Ο\u0301  Ω\u0301  ´   \u2002 \u2003"),
  (0x2126, "Ω    K A\u030a"),
  (0x2329, "〈 〉"),
  (0x2ADC, "⫝\u0338"),
  (0xF900, "豈 更 車 賈 滑 串 句 龜 龜 契 金 喇 奈 懶 癩 羅 蘿 螺 裸 邏 樂 洛 烙 珞 落 酪 駱 亂 卵 欄 爛 蘭 鸞 嵐 濫 藍 襤 拉 臘"),
  (0xF927, "蠟 廊 朗 浪 狼 郎 來 冷 勞 擄 櫓 爐 盧 老 蘆 虜 路 露 魯 鷺 碌 祿 綠 菉 錄 鹿 論 壟 弄 籠 聾 牢 磊 賂 雷 壘 屢 樓 淚"),
  (0xF94E, "漏 累 縷 陋 勒 肋 凜 凌 稜 綾 菱 陵 讀 拏 樂 諾 丹 寧 怒 率 異 北 磻 便 復 不 泌 數 索 參 塞 省 葉 說 殺 辰 沈 拾 若"),
  (0xF975, "掠 略 亮 兩 凉 梁 糧 良 諒 量 勵 呂 女 廬 旅 濾 礪 閭 驪 麗 黎 力 曆 歷 轢 年 憐 戀 撚 漣 煉 璉 秊 練 聯 輦 蓮 連 鍊"),
  (0xF99C, "列 劣 咽 烈 裂 說 廉 念 捻 殮 簾 獵 令 囹 寧 嶺 怜 玲 瑩 羚 聆 鈴 零 靈 領 例 禮 醴 隸 惡 了 僚 寮 尿 料 樂 燎 療 蓼"),
  (0xF9C3, "遼 龍 暈 阮 劉 杻 柳 流 溜 琉 留 硫 紐 類 六 戮 陸 倫 崙 淪 輪 律 慄 栗 率 隆 利 吏 履 易 李 梨 泥 理 痢 罹 裏 裡 里"),
  (0xF9EA, "離 匿 溺 吝 燐 璘 藺 隣 鱗 麟 林 淋 臨 立 笠 粒 狀 炙 識 什 茶 刺 切 度 拓 糖 宅 洞 暴 輻 行 降 見 廓 兀 嗀   塚  晴"),
  (0xFA15, "凞 猪 益 礼 神 祥 福 靖 精 羽  蘒  諸   逸 都    飯 飼 館 鶴 郞 隷 侮 僧 免 勉 勤 卑 喝 嘆 器 塀 墨 層 屮 悔 慨 憎"),
  (0xFA40, "懲 敏 既 暑 梅 海 渚 漢 煮 爫 琢 碑 社 祉 祈 祐 祖 祝 禍 禎 穀 突 節 練 縉 繁 署 者 臭 艹 艹 著 褐 視 謁 謹 賓 贈 辶"),
  (0xFA67, "逸 難 響 頻 恵 𤋮 舘   並 况 全 侀 充 冀 勇 勺 喝 啕 喙 嗢 塚 墳 奄 奔 婢 嬨 廒 廙 彩 徭 惘 慎 愈 憎 慠 懲 戴 揄 搜"),
  (0xFA8F, "摒 敖 晴 朗 望 杖 歹 殺 流 滛 滋 漢 瀞 煮 瞧 爵 犯 猪 瑱 甆 画 瘝 瘟 益 盛 直 睊 着 磌 窱 節 类 絛 練 缾 者 荒 華 蝹"),
  (0xFAB6, "襁 覆 視 調 諸 請 謁 諾 諭 謹 變 贈 輸 遲 醙 鉶 陼 難 靖 韛 響 頋 頻 鬒 龜 𢡊 𢡄 𣏕 㮝 䀘 䀹 𥉉 𥳐 𧻓 齃 龎"),
  (0xFB1D, "י\u05b4  ײ\u05b7"),
  (0xFB2A, "ש\u05c1 ש\u05c2 ש\u05bc\u05c1 ש\u05bc\u05c2 א\u05b7 א\u05b8 א\u05bc ב\u05bc"),
  (0xFB32, "ג\u05bc ד\u05bc ה\u05bc ו\u05bc ז\u05bc  ט\u05bc י\u05bc ך\u05bc כ\u05bc"),
  (0xFB3C, "ל\u05bc  מ\u05bc  נ\u05bc ס\u05bc  ף\u05bc פ\u05bc  צ\u05bc ק\u05bc ר\u05bc"),
  (0xFB49, "ש\u05bc ת\u05bc ו\u05b9 ב\u05bf כ\u05bf פ\u05bf"),
  (0x1D15E, "𝅗𝅥 𝅘𝅥 𝅘𝅥𝅮 𝅘𝅥𝅯 𝅘𝅥𝅰 𝅘𝅥𝅱 𝅘𝅥𝅲"),
  (0x1D1BB, "𝆹𝅥 𝆺𝅥 𝆹𝅥𝅮 𝆺𝅥𝅮 𝆹𝅥𝅯 𝆺𝅥𝅯"),
  (0x2F800, "丽 丸 乁 𠄢 你 侮 侻 倂 偺 備 僧 像 㒞 𠘺 免 兔 兤 具 𠔜 㒹 內 再 𠕋 冗 冤 仌 冬 况 𩇟 凵 刃 㓟 刻 剆 割 剷 㔕 勇 勉"),
  (0x2F827, "勤 勺 包 匆 北 卉 卑 博 即 卽 卿 卿 卿 𠨬 灰 及 叟 𠭣 叫 叱 吆 咞 吸 呈 周 咢 哶 唐 啓 啣 善 善 喙 喫 喳 嗂 圖 嘆 圗"),
  (0x2F84E, "噑 噴 切 壮 城 埴 堍 型 堲 報 墬 𡓤 売 壷 夆 多 夢 奢 𡚨 𡛪 姬 娛 娧 姘 婦 㛮 㛼 嬈 嬾 嬾 𡧈 寃 寘 寧 寳 𡬘 寿 将 当"),
  (0x2F875, "尢 㞁 屠 屮 峀 岍 𡷤 嵃 𡷦 嵮 嵫 嵼 巡 巢 㠯 巽 帨 帽 幩 㡢 𢆃 㡼 庰 庳 庶 廊 𪎒 廾 𢌱 𢌱 舁 弢 弢 㣇 𣊸 𦇚 形 彫 㣣"),
  (0x2F89C, "徚 忍 志 忹 悁 㤺 㤜 悔 𢛔 惇 慈 慌 慎 慌 慺 憎 憲 憤 憯 懞 懲 懶 成 戛 扝 抱 拔 捐 𢬌 挽 拼 捨 掃 揤 𢯱 搢 揅 掩 㨮"),
  (0x2F8C3, "摩 摾 撝 摷 㩬 敏 敬 𣀊 旣 書 晉 㬙 暑 㬈 㫤 冒 冕 最 暜 肭 䏙 朗 望 朡 杞 杓 𣏃 㭉 柺 枅 桒 梅 𣑭 梎 栟 椔 㮝 楂 榣"),
  (0x2F8EA, "槪 檨 𣚣 櫛 㰘 次 𣢧 歔 㱎 歲 殟 殺 殻 𣪍 𡴋 𣫺 汎 𣲼 沿 泍 汧 洖 派 海 流 浩 浸 涅 𣴞 洴 港 湮 㴳 滋 滇 𣻑 淹 潮 𣽞"),
  (0x2F911, "𣾎 濆 瀹 瀞 瀛 㶖 灊 災 灷 炭 𠔥 煅 𤉣 熜 𤎫 爨 爵 牐 𤘈 犀 犕 𤜵 𤠔 獺 王 㺬 玥 㺸 㺸 瑇 瑜 瑱 璅 瓊 㼛 甤 𤰶 甾 𤲒"),
  (0x2F938, "異 𢆟 瘐 𤾡 𤾸 𥁄 㿼 䀈 直 𥃳 𥃲 𥄙 𥄳 眞 真 真 睊 䀹 瞋 䁆 䂖 𥐝 硎 碌 磌 䃣 𥘦 祖 𥚚 𥛅 福 秫 䄯 穀 穊 穏 𥥼 𥪧 𥪧"),
  (0x2F95F, "竮 䈂 𥮫 篆 築 䈧 𥲀 糒 䊠 糨 糣 紀 𥾆 絣 䌁 緇 縂 繅 䌴 𦈨 𦉇 䍙 𦋙 罺 𦌾 羕 翺 者 𦓚 𦔣 聠 𦖨 聰 𣍟 䏕 育 脃 䐋 脾"),
  (0x2F986, "媵 𦞧 𦞵 𣎓 𣎜 舁 舄 辞 䑫 芑 芋 芝 劳 花 芳 芽 苦 𦬼 若 茝 荣 莭 茣 莽 菧 著 荓 菊 菌 菜 𦰶 𦵫 𦳕 䔫 蓱 蓳 蔖 𧏊 蕤"),
  (0x2F9AD, "𦼬 䕝 䕡 𦾱 𧃒 䕫 虐 虜 虧 虩 蚩 蚈 蜎 蛢 蝹 蜨 蝫 螆 䗗 蟡 蠁 䗹 衠 衣 𧙧 裗 裞 䘵 裺 㒻 𧢮 𧥦 䚾 䛇 誠 諭 變 豕 𧲨"),
  (0x2F9D4, "貫 賁 贛 起 𧼯 𠠄 跋 趼 跰 𠣞 軔 輸 𨗒 𨗭 邔 郱 鄑 𨜮 鄛 鈸 鋗 鋘 鉼 鏹 鐕 𨯺 開 䦕 閷 𨵷 䧦 雃 嶲 霣 𩅅 𩈚 䩮 䩶 韠"),
  (0x2F9FB, "𩐊 䪲 𩒖 頋 頋 頩 𩖶 飢 䬳 餩 馧 駂 駾 䯎 𩬰 鬒 鱀 鳽 䳎 䳭 鵧 𪃎 䳸 𪄅 𪈎 𪊑 麻 䵖 黹 黾 鼅 鼏 鼖 鼻 𪘀")]

/-- What composites are made of. -/
def composites : ImageTable := imageTable compositeRows

/-- What stands for replaced characters. -/
def replacedCharacters : ImageTable := imageTable replacedRows

end LinkedData.Text
