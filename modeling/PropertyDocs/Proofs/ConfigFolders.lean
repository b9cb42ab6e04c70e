import PropertyDocs.Proofs.Concatenation
import PropertyDocs.Proofs.ExitCodes
import PropertyDocs.Proofs.Refusals

/-!
# Loading the copies of a file

All copies of a file are found, read and compiled before the first of them runs. A failure up to
there leaves the leaf as it was and calls no decryptor. If there is none, loading comes to running
the documents in the files one after another, each with the given decryptor, up to the first that
fails.
-/
namespace PropertyDocs

namespace Disk
variable {d : Disk} {decryptor : Option Decryptor} {folder : Path} {name : String}
  {found : List Path} {documents : List Document}

namespace Compiles

end Compiles

/-! ## Failures before the first run -/

section
variable (decryptor)

end

/-! ## Runs of files -/

end Disk

end PropertyDocs
