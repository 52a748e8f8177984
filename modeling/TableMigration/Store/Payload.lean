import TableMigration.Store.Key

/-!
# Store.Payload

The stored form of a row's value: its utime and data bytes, laid out as an archive that is
read in place from its end.

The data bytes come first, padded with zeros to a multiple of eight. The last sixteen bytes
are the root: the utime (eight little-endian bytes), the data's position as a signed
little-endian 32-bit offset from the offset field itself, and the data's length as an
unsigned little-endian 32-bit number.

Reading accepts exactly the buffers whose length is a multiple of eight, at least sixteen,
and whose offset and length point inside the bytes before the root.
-/

namespace TableMigration.Store

/-- `n` as `width` little-endian bytes. -/
def littleEndian (width : Nat) (n : Nat) : List UInt8 :=
  (List.range width).map fun i => (n / Nat.pow 256 i % 256).toUInt8

/-- The number written by little-endian bytes. -/
def ofLittleEndian (bs : List UInt8) : Nat :=
  bs.foldr (fun b acc => acc * 256 + b.toNat) 0

/-- Zeros that pad `n` bytes to a multiple of eight. -/
def padding (n : Nat) : List UInt8 := List.replicate ((8 - n % 8) % 8) 0

/-- The stored bytes of a row's utime and data. -/
def encodePayload (utime : Int64) (data : List UInt8) : List UInt8 :=
  let body := data ++ padding data.length
  let offset : Int := -((body.length : Int) + 8)
  body ++ littleEndian 8 utime.toUInt64.toNat ++ littleEndian 4 (offset % Nat.pow 2 32).toNat ++
    littleEndian 4 data.length

/-- A 32-bit word read as a signed number. -/
def signed32 (n : Nat) : Int := if n < Nat.pow 2 31 then n else (n : Int) - (Nat.pow 2 32 : Nat)

/-- Read the utime and data back, if the buffer is a valid archive. -/
def decodePayload (bytes : List UInt8) : Option (Int64 × List UInt8) :=
  let size := bytes.length
  if size < 16 ∨ size % 8 ≠ 0 then none
  else
    let root := size - 16
    let rootBytes := bytes.drop root
    let utime := (ofLittleEndian (rootBytes.take 8)).toUInt64.toInt64
    let offset := signed32 (ofLittleEndian ((rootBytes.drop 8).take 4))
    let length := ofLittleEndian ((rootBytes.drop 12).take 4)
    let start : Int := (root : Int) + 8 + offset
    if start < 0 ∨ start + length > root then none
    else some (utime, (bytes.drop start.toNat).take length)

end TableMigration.Store
