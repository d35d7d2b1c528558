import TypedPath.Digest.Sha1
import TypedPath.Text.Escaped

/-! Name-based identifiers: the digest of a name inside a name space, cut to sixteen bytes and
marked as version five. -/
namespace TypedPath

structure Uuid where
  bytes : List UInt8
  deriving Repr, DecidableEq

namespace Uuid

/-- The name space of resource locators. -/
def urlSpace : Uuid :=
  ⟨[0x6b, 0xa7, 0xb8, 0x11, 0x9d, 0xad, 0x11, 0xd1, 0x80, 0xb4, 0x00, 0xc0, 0x4f, 0xd4, 0x30, 0xc8]⟩

def ofName (space : Uuid) (name : String) : Uuid :=
  let digest := (Digest.sha1 (space.bytes ++ name.toUTF8.toList)).take 16
  ⟨digest.zipIdx.map fun (b, i) =>
    if i = 6 then b &&& 0x0f ||| 0x50 else if i = 8 then b &&& 0x3f ||| 0x80 else b⟩

def text (u : Uuid) : String :=
  let part (start count : Nat) : String :=
    String.join (((u.bytes.drop start).take count).map fun b => Text.hex 2 b.toNat)
  "-".intercalate [part 0 4, part 4 2, part 6 2, part 8 2, part 10 6]

end Uuid

end TypedPath
