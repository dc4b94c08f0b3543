/-!
# SHA-256

The SHA-256 digest of a byte string (FIPS 180-4): the message is padded with a one bit, zeros
and its length in bits to a whole number of 64-byte blocks, and each block is compressed into an
eight-word state by 64 rounds. The digest is the final state, big-endian, written as 64
lowercase hexadecimal digits.
-/

namespace EntitySchema.Digest

/-- The round constants: the first 32 bits of the fractional parts of the cube roots of the
first 64 primes. -/
def roundConstants : Array UInt32 := #[
  0x428a2f98, 0x71374491, 0xb5c0fbcf, 0xe9b5dba5, 0x3956c25b, 0x59f111f1, 0x923f82a4, 0xab1c5ed5,
  0xd807aa98, 0x12835b01, 0x243185be, 0x550c7dc3, 0x72be5d74, 0x80deb1fe, 0x9bdc06a7, 0xc19bf174,
  0xe49b69c1, 0xefbe4786, 0x0fc19dc6, 0x240ca1cc, 0x2de92c6f, 0x4a7484aa, 0x5cb0a9dc, 0x76f988da,
  0x983e5152, 0xa831c66d, 0xb00327c8, 0xbf597fc7, 0xc6e00bf3, 0xd5a79147, 0x06ca6351, 0x14292967,
  0x27b70a85, 0x2e1b2138, 0x4d2c6dfc, 0x53380d13, 0x650a7354, 0x766a0abb, 0x81c2c92e, 0x92722c85,
  0xa2bfe8a1, 0xa81a664b, 0xc24b8b70, 0xc76c51a3, 0xd192e819, 0xd6990624, 0xf40e3585, 0x106aa070,
  0x19a4c116, 0x1e376c08, 0x2748774c, 0x34b0bcb5, 0x391c0cb3, 0x4ed8aa4a, 0x5b9cca4f, 0x682e6ff3,
  0x748f82ee, 0x78a5636f, 0x84c87814, 0x8cc70208, 0x90befffa, 0xa4506ceb, 0xbef9a3f7, 0xc67178f2]

/-- The eight working words of the compression. -/
structure Words where
  a : UInt32
  b : UInt32
  c : UInt32
  d : UInt32
  e : UInt32
  f : UInt32
  g : UInt32
  h : UInt32

/-- The initial state: the first 32 bits of the fractional parts of the square roots of the
first eight primes. -/
def initialWords : Words :=
  ⟨0x6a09e667, 0xbb67ae85, 0x3c6ef372, 0xa54ff53a, 0x510e527f, 0x9b05688c, 0x1f83d9ab, 0x5be0cd19⟩

def rotr (x : UInt32) (n : UInt32) : UInt32 := (x >>> n) ||| (x <<< (32 - n))

def byteAt (b : ByteArray) (i : Nat) : UInt32 := (b[i]?.getD 0).toUInt32

def wordAt (b : ByteArray) (i : Nat) : UInt32 :=
  (byteAt b i <<< 24) ||| (byteAt b (i + 1) <<< 16) ||| (byteAt b (i + 2) <<< 8) |||
    byteAt b (i + 3)

/-- The 64 words of the message schedule of the block at a byte position. -/
def schedule (b : ByteArray) (start : Nat) : Array UInt32 :=
  let first := (List.range 16).toArray.map fun t => wordAt b (start + 4 * t)
  (List.range 48).foldl
    (fun (w : Array UInt32) k =>
      let t := k + 16
      let word (j : Nat) : UInt32 := w[j]?.getD 0
      let x := word (t - 15)
      let y := word (t - 2)
      let s0 := rotr x 7 ^^^ rotr x 18 ^^^ (x >>> 3)
      let s1 := rotr y 17 ^^^ rotr y 19 ^^^ (y >>> 10)
      w.push (s1 + word (t - 7) + s0 + word (t - 16)))
    first

/-- One round of the compression. -/
def round (w : Array UInt32) (v : Words) (t : Nat) : Words :=
  let s1 := rotr v.e 6 ^^^ rotr v.e 11 ^^^ rotr v.e 25
  let ch := (v.e &&& v.f) ^^^ (~~~v.e &&& v.g)
  let t1 := v.h + s1 + ch + (roundConstants[t]?.getD 0) + (w[t]?.getD 0)
  let s0 := rotr v.a 2 ^^^ rotr v.a 13 ^^^ rotr v.a 22
  let maj := (v.a &&& v.b) ^^^ (v.a &&& v.c) ^^^ (v.b &&& v.c)
  let t2 := s0 + maj
  ⟨t1 + t2, v.a, v.b, v.c, v.d + t1, v.e, v.f, v.g⟩

def compress (b : ByteArray) (start : Nat) (s : Words) : Words :=
  let w := schedule b start
  let v := (List.range 64).foldl (round w) s
  ⟨s.a + v.a, s.b + v.b, s.c + v.c, s.d + v.d, s.e + v.e, s.f + v.f, s.g + v.g, s.h + v.h⟩

/-- The message padded to whole blocks: a one bit, zeros, and the length in bits as a
big-endian 64-bit number. -/
def pad (msg : ByteArray) : ByteArray :=
  let n := msg.size
  let zeros := (119 - n % 64) % 64
  let lengthBytes := (List.range 8).reverse.map fun k => ((8 * n) >>> (8 * k) % Nat.pow 2 64).toUInt8
  msg ++ ByteArray.mk #[0x80] ++ ByteArray.mk (List.replicate zeros (0 : UInt8)).toArray ++
    ByteArray.mk lengthBytes.toArray

def wordHex (x : UInt32) : String :=
  let d := Nat.toDigits 16 x.toNat
  String.ofList (List.replicate (8 - d.length) '0' ++ d)

def sha256Hex (msg : ByteArray) : String :=
  let p := pad msg
  let s := (List.range (p.size / 64)).foldl (fun s k => compress p (64 * k) s) initialWords
  String.join ([s.a, s.b, s.c, s.d, s.e, s.f, s.g, s.h].map wordHex)

def sha256HexOfText (s : String) : String := sha256Hex s.toUTF8

end EntitySchema.Digest
