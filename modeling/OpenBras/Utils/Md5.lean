/-
  File:      OpenBras/Utils/Md5.lean
  Subject:   MD5: `MD5_Init`, `MD5_Update`, `MD5_Final` and `Transform` (src/Utils/md5.cpp).

  What is proved of the protocols holds of every digest of 16 bytes; this one is what sample
  runs use.
-/
import OpenBras.Lib.Wire

namespace OpenBras

open Wire

/-- The context; `block` holds the bytes of `in` that have been filled, `mdi` of them. -/
structure MD5_CTX where
  i0 : UInt32 := 0
  i1 : UInt32 := 0
  buf : UInt32 × UInt32 × UInt32 × UInt32 := (0x67452301, 0xefcdab89, 0x98badcfe, 0x10325476)
  block : Bytes := []

namespace MD5_CTX

def F (x y z : UInt32) : UInt32 := (x &&& y) ||| (~~~x &&& z)
def G (x y z : UInt32) : UInt32 := (x &&& z) ||| (y &&& ~~~z)
def H (x y z : UInt32) : UInt32 := x ^^^ y ^^^ z
def I (x y z : UInt32) : UInt32 := y ^^^ (x ||| ~~~z)

def rotateLeft (x n : UInt32) : UInt32 := (x <<< n) ||| (x >>> (32 - n))

/-- A round: its function, the words it takes in turn, its four shifts and its constants. -/
def rounds : List ((UInt32 → UInt32 → UInt32 → UInt32) × List Nat × List UInt32 × List UInt32) :=
  [(F, [0, 1, 2, 3, 4, 5, 6, 7, 8, 9, 10, 11, 12, 13, 14, 15], [7, 12, 17, 22],
    [3614090360, 3905402710, 606105819, 3250441966, 4118548399, 1200080426, 2821735955,
     4249261313, 1770035416, 2336552879, 4294925233, 2304563134, 1804603682, 4254626195,
     2792965006, 1236535329]),
   (G, [1, 6, 11, 0, 5, 10, 15, 4, 9, 14, 3, 8, 13, 2, 7, 12], [5, 9, 14, 20],
    [4129170786, 3225465664, 643717713, 3921069994, 3593408605, 38016083, 3634488961,
     3889429448, 568446438, 3275163606, 4107603335, 1163531501, 2850285829, 4243563512,
     1735328473, 2368359562]),
   (H, [5, 8, 11, 14, 1, 4, 7, 10, 13, 0, 3, 6, 9, 12, 15, 2], [4, 11, 16, 23],
    [4294588738, 2272392833, 1839030562, 4259657740, 2763975236, 1272893353, 4139469664,
     3200236656, 681279174, 3936430074, 3572445317, 76029189, 3654602809, 3873151461,
     530742520, 3299628645]),
   (I, [0, 7, 14, 5, 12, 3, 10, 1, 8, 15, 6, 13, 4, 11, 2, 9], [6, 10, 15, 21],
    [4096336452, 1126891415, 2878612391, 4237533241, 1700485571, 2399980690, 4293915773,
     2240044497, 1873313359, 4264355552, 2734768916, 1309151649, 4149444226, 3174756917,
     718787259, 3951481745])]

/-- `FF`, `GG`, `HH` and `II`, with the registers moved on: the one that was set comes second in
    the next step. -/
def stepWith (f : UInt32 → UInt32 → UInt32 → UInt32) (x s ac : UInt32) :
    UInt32 × UInt32 × UInt32 × UInt32 → UInt32 × UInt32 × UInt32 × UInt32
  | (a, b, c, d) => (d, rotateLeft (a + f b c d + x + ac) s + b, b, c)

/-- `Transform`. -/
def transform (inp : List UInt32) (buf : UInt32 × UInt32 × UInt32 × UInt32) :
    UInt32 × UInt32 × UInt32 × UInt32 :=
  let (a, b, c, d) := rounds.foldl (fun r (f, ks, ss, acs) =>
    (ks.zip ((ss ++ ss ++ ss ++ ss).zip acs)).foldl
      (fun r (k, s, ac) => stepWith f (inp.getD k 0) s ac r) r) buf
  (buf.1 + a, buf.2.1 + b, buf.2.2.1 + c, buf.2.2.2 + d)

/-- The first `n` words of a block, low byte first. -/
def words (n : Nat) (block : Bytes) : List UInt32 :=
  (List.range n).map fun i =>
    (byteAt block (4 * i + 3)).toUInt32 <<< 24 ||| (byteAt block (4 * i + 2)).toUInt32 <<< 16 |||
      (byteAt block (4 * i + 1)).toUInt32 <<< 8 ||| (byteAt block (4 * i)).toUInt32

/-- One turn of the loop of `MD5_Update`. -/
def push (m : MD5_CTX) (b : UInt8) : MD5_CTX :=
  let block := m.block ++ [b]
  if block.length = 0x40 then { m with buf := transform (words 16 block) m.buf, block := [] }
  else { m with block := block }

/-- `MD5_Update`. -/
def update (m : MD5_CTX) (inBuf : Bytes) : MD5_CTX :=
  let bits := inBuf.length.toUInt32 <<< 3
  inBuf.foldl push
    { m with
      i0 := m.i0 + bits
      i1 := (if m.i0 + bits < m.i0 then m.i1 + 1 else m.i1) + inBuf.length.toUInt32 >>> 29 }

/-- `MD5_Final`. -/
def final (m : MD5_CTX) : Bytes :=
  let mdi := m.block.length
  let padLen := if mdi < 56 then 56 - mdi else 120 - mdi
  let p := m.update (0x80 :: List.replicate (padLen - 1) 0)
  let (a, b, c, d) := transform (words 14 p.block ++ [m.i0, m.i1]) p.buf
  hostLong a ++ hostLong b ++ hostLong c ++ hostLong d

end MD5_CTX

/-- The three calls, as every caller makes them. -/
def md5 (b : Bytes) : Bytes := (({} : MD5_CTX).update b).final

theorem length_md5 (b : Bytes) : (md5 b).length = 16 := rfl

example : md5 (ascii "abc") =
    [0x90, 0x01, 0x50, 0x98, 0x3c, 0xd2, 0x4f, 0xb0, 0xd6, 0x96, 0x3f, 0x7d, 0x28, 0xe1, 0x7f, 0x72] := by
  decide +kernel

end OpenBras
