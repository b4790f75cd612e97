import CephExport.Digest.Blake3

/-!
The names of the resources that belong to a cluster.
-/

set_option autoImplicit false
set_option relaxedAutoImplicit false

namespace CephExport

/-- The most bytes that a name may have where it is used as a DNS label. -/
def maxNameLength : Nat := 63

def hashSuffixLength : Nat := 8

/-- The characters of a full name that a shortened one keeps at most. -/
def keptLength : Nat := maxNameLength - hashSuffixLength - 1

def fullName (parent tag : String) : String := parent ++ "-" ++ tag

def trimDashes (text : List Char) : List Char := (text.reverse.dropWhile (· == '-')).reverse

/-- A full name that is too long, cut and told apart from others by the hash of the whole. -/
def shortenedName (full : String) : String :=
  String.ofList (trimDashes (full.toList.take keptLength)) ++ "-" ++ shortHash full hashSuffixLength

def deriveName (parent tag : String) : String :=
  let full := fullName parent tag
  if full.utf8ByteSize ≤ maxNameLength then full else shortenedName full

end CephExport
