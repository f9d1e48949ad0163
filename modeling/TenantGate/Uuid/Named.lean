/-
Identifiers derived from a name: the first sixteen bytes of the digest
of a namespace and the name, with the version five and the variant
stamped on them. Equal names give equal identifiers.
-/
import TenantGate.Digest.Sha1
import TenantGate.Uuid.Basic

namespace TenantGate.Uuid

/-- The identifier of sixteen bytes, most significant first. -/
def ofBytes (bs : List UInt8) : Uuid := ofNat (bs.foldl (fun n b => 256 * n + b.toNat) 0)

/-- The namespace of object identifiers. -/
def objectNamespace : Uuid := ofNat 0x6ba7b812_9dad_11d1_80b4_00c04fd430c8

/-- Stamps the version five on the seventh byte and the variant on the
ninth. -/
def stamp (bs : List UInt8) : List UInt8 :=
  (bs.modify 6 fun b => (b &&& 0x0f) ||| 0x50).modify 8 fun b => (b &&& 0x3f) ||| 0x80

/-- The identifier of a name in a namespace. -/
def named (space : Uuid) (name : String) : Uuid :=
  ofBytes (stamp ((Digest.Sha1.digest (space.bytes ++ name.toUTF8.toList)).take 16))

end TenantGate.Uuid
