import QueryPack.EffectiveQuery
import QueryPack.Digest.Blake3
import QueryPack.Text.Hex

namespace QueryPack.Digest

/-!
# What a digest is taken over

A run is identified by the hash of one stream of bytes. Each artifact puts in
its language, its category and its content, and every field is preceded by its
length, so that neighbouring fields cannot run into one another.
-/

/-- A number in a given count of bytes, lowest first. -/
def littleEndian : Nat → Nat → List UInt8
  | 0, _ => []
  | count + 1, value => (value % 256).toUInt8 :: littleEndian count (value / 256)

/-- A text in UTF-8, preceded by its length in eight bytes. -/
def field (text : String) : List UInt8 :=
  littleEndian 8 text.utf8ByteSize ++ text.toUTF8.data.toList

def frame (query : EffectiveQuery) : List UInt8 :=
  field query.language.name ++ field query.category.name ++ field query.expression

/-- The fields of all artifacts, in the order they are written. -/
def stream (queries : List EffectiveQuery) : List UInt8 :=
  queries.flatMap frame

/-- The digest of artifacts: the hash of their stream, in hexadecimal. -/
def ofQueries (queries : List EffectiveQuery) : String :=
  Text.hex (hash (stream queries))

end QueryPack.Digest
