import LiveBuild.Digest.Blake3
import LiveBuild.Files.Basic
import LiveBuild.Text.Table

/-!
# Digests of contents

The digest of a file names its content. The digest of a set of labelled digests depends on the set
alone: the entries are sorted, and label and digest are each closed by a byte of their own.
-/

namespace LiveBuild.Digest

def ofBytes (content : ByteArray) : String := Blake3.hex content.toList

def ofText (text : String) : String := ofBytes text.toUTF8

def ofFile {σ : Type} [FileStore σ] (store : σ) (p : Path) : Except Failure String :=
  (FileStore.read store p).map ofBytes

def entryLe (a b : String × String) : Bool :=
  decide (a.1 < b.1) || (a.1 == b.1 && !decide (b.2 < a.2))

/-- The bytes of one entry: a zero byte closes the label, a line end the digest. -/
def entryBytes (entry : String × String) : List UInt8 :=
  entry.1.toUTF8.toList ++ 0 :: entry.2.toUTF8.toList ++ [10]

/-- The bytes of a list of entries, whatever its order. -/
def stream (entries : List (String × String)) : List UInt8 :=
  (entries.mergeSort entryLe).flatMap entryBytes

def aggregate (entries : List (String × String)) : String := Blake3.hex (stream entries)

def shortLength : Nat := 16

def short (digest : String) : String := String.ofList (digest.toList.take shortLength)

/-- The short digest that identifies a set of outputs. -/
def ofOutputs (outputs : TextTable String) : String := short (aggregate outputs.entries)

/-- The name of a file that stands for its content. -/
def assetName (content : ByteArray) (extension : String) : String :=
  short (ofBytes content) ++ extension

end LiveBuild.Digest
