import CommitSearch.Digest.Sha256
import CommitSearch.Request

/-!
# Cache keys

Results are cached under keys that begin with the name and the release of the service, so that no
other release reads them, and end with the fingerprint of the request. The fingerprint is the digest
of an encoding in which every field carries its length, so that no two fields can run into each
other.
-/

namespace CommitSearch

def keyStart : String := "changelog:8bd0a23b:"

def versionedKey (content : String) : String := keyStart ++ content

/-- A field of the encoding: the number of its bytes in eight bytes, and the bytes. -/
def encodeField (s : String) : List UInt8 :=
  Sha256.bigEndian 8 s.utf8ByteSize ++ s.toUTF8.toList

/-- The fields of a filter key: its name, the number of its values, and the values. -/
def filterFields (entry : FilterKey × List String) : List String :=
  entry.1.name :: toString entry.2.length :: entry.2

namespace SearchRequest

/-- The fields of a request in the order of the encoding. -/
def encodedFields (r : SearchRequest) : List String :=
  r.query :: toString r.filters.toList.length :: r.filters.toList.flatMap filterFields ++
    [r.before, r.after, toString r.pageSize, r.last]

def encoding (r : SearchRequest) : List UInt8 := r.encodedFields.flatMap encodeField

def fingerprint (r : SearchRequest) : String := Sha256.hexDigest r.encoding

/-- The key under which the result of a request is cached. -/
def key (r : SearchRequest) : String := versionedKey ("commits:" ++ r.fingerprint)

end SearchRequest

def searchPattern : String := versionedKey "commits:*"

end CommitSearch
