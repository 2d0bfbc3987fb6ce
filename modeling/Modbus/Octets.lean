/-!
# Octets, words and bits

A message is a list of octets.  A register value is a 16-bit word, written
high octet first, and a row of coils is packed eight to an octet, the first
coil in the lowest bit.
-/

namespace Modbus

/-- The two octets of a word, high octet first. -/
def Word.toOctets (word : UInt16) : List UInt8 :=
  [UInt8.ofNat (word.toNat / 256), UInt8.ofNat (word.toNat % 256)]

def Word.ofOctets (high low : UInt8) : UInt16 :=
  UInt16.ofNat (high.toNat * 256 + low.toNat)

theorem Word.ofOctets_toOctets (word : UInt16) :
    Word.ofOctets (UInt8.ofNat (word.toNat / 256)) (UInt8.ofNat (word.toNat % 256)) = word := by
  have hword := word.toNat_lt
  apply UInt16.toNat_inj.mp
  simp only [Word.ofOctets, UInt16.toNat_ofNat', UInt8.toNat_ofNat']
  omega

theorem Word.toOctets_ofOctets (high low : UInt8) :
    Word.toOctets (Word.ofOctets high low) = [high, low] := by
  have hhigh := high.toNat_lt
  have hlow := low.toNat_lt
  have hword : (Word.ofOctets high low).toNat = high.toNat * 256 + low.toNat := by
    simp only [Word.ofOctets, UInt16.toNat_ofNat']
    omega
  have hdiv : (high.toNat * 256 + low.toNat) / 256 = high.toNat := by omega
  have hmod : (high.toNat * 256 + low.toNat) % 256 = low.toNat := by omega
  simp [Word.toOctets, hword, hdiv, hmod]

def Words.toOctets (words : List UInt16) : List UInt8 :=
  words.flatMap Word.toOctets

@[simp] theorem Words.toOctets_nil : Words.toOctets [] = [] := rfl

@[simp] theorem Words.toOctets_cons (word : UInt16) (words : List UInt16) :
    Words.toOctets (word :: words) = Word.toOctets word ++ Words.toOctets words := rfl

@[simp] theorem Words.length_toOctets (words : List UInt16) :
    (Words.toOctets words).length = 2 * words.length := by
  induction words with
  | nil => rfl
  | cons word words ih =>
    simp only [Words.toOctets_cons, List.length_append, ih, List.length_cons]
    simp [Word.toOctets]
    omega

/-- The number whose bits are the given ones, lowest first. -/
def Bits.number (bits : List Bool) : Nat :=
  bits.foldr (fun bit rest => bit.toNat + 2 * rest) 0

/-- The octet whose bits are the given ones, lowest first. -/
def Bits.toOctet (bits : List Bool) : UInt8 :=
  UInt8.ofNat (Bits.number bits)

/-- The eight bits of an octet, lowest first. -/
def Bits.ofOctet (octet : UInt8) : List Bool :=
  (List.range 8).map fun index => octet.toNat.testBit index

/-- Eight bits to an octet; the last octet is filled up with cleared bits. -/
def Bits.pack (bits : List Bool) : List UInt8 :=
  match bits with
  | [] => []
  | bit :: rest => Bits.toOctet ((bit :: rest).take 8) :: Bits.pack ((bit :: rest).drop 8)
termination_by bits.length

/-- The first `count` bits of a row of octets, or all of them if there are fewer. -/
def Bits.unpack (octets : List UInt8) (count : Nat) : List Bool :=
  (octets.flatMap Bits.ofOctet).take count

@[simp] theorem Bits.length_ofOctet (octet : UInt8) : (Bits.ofOctet octet).length = 8 := by
  simp [Bits.ofOctet]

end Modbus
