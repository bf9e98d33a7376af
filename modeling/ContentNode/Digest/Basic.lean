/-!
# Digests

A digest is a string of thirty-two bytes.  Both hash functions of the store
produce one, whatever the length of their input.
-/

namespace ContentNode

/-- Thirty-two bytes. -/
abbrev Digest := Vector UInt8 32

namespace Digest

/-- The number of bytes in a digest. -/
def size : Nat := 32

end Digest

end ContentNode
