/-!
# Store.Key

How rows are keyed in the ordered byte store. An id is written as eight big-endian bytes of
its value with the sign bit flipped, so byte order is id order. A table's prefix is the
name's UTF-8 length as eight big-endian bytes followed by the name, so no table's prefix
begins another's. A row's key is its table's prefix followed by its id.
-/

namespace TableMigration.Store

/-- `n` as `width` big-endian bytes (the low `8 · width` bits). -/
def bigEndian (width : Nat) (n : Nat) : List UInt8 :=
  (List.range width).reverse.map fun i => (n / Nat.pow 256 i % 256).toUInt8

/-- The number written by big-endian bytes. -/
def ofBigEndian (bs : List UInt8) : Nat :=
  bs.foldl (fun acc b => acc * 256 + b.toNat) 0

/-- The order-preserving bytes of an id. -/
def encodeId (id : Int64) : List UInt8 :=
  bigEndian 8 (id.toUInt64 ^^^ 0x8000000000000000).toNat

/-- The id written by exactly eight bytes. -/
def decodeId (bs : List UInt8) : Option Int64 :=
  if bs.length = 8 then some (((ofBigEndian bs).toUInt64) ^^^ 0x8000000000000000).toInt64
  else none

/-- A table's key prefix: its UTF-8 length, then its bytes. -/
def tablePrefix (table : String) : List UInt8 :=
  let bytes := table.toUTF8.toList
  bigEndian 8 bytes.length ++ bytes

/-- A row's key. -/
def rowKey (table : String) (id : Int64) : List UInt8 :=
  tablePrefix table ++ encodeId id

theorem length_bigEndian (width n : Nat) : (bigEndian width n).length = width := by
  simp [bigEndian]

theorem length_encodeId (id : Int64) : (encodeId id).length = 8 := length_bigEndian 8 _

end TableMigration.Store
