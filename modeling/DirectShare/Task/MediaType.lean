import DirectShare.FileName
import DirectShare.Task.MediaType.Application
import DirectShare.Task.MediaType.Audiovisual
import DirectShare.Task.MediaType.Textual
import DirectShare.Task.MediaType.Vendor
import DirectShare.Text.CaseFold

/-!
# Media types

The media type of a file is guessed from its extension.

`MediaType.known` joins the tables of known extensions, `MediaType.ofExtension?` looks one up
whatever its case, and `MediaType.ofName` takes the extension from a name.
-/

namespace DirectShare.MediaType

/-- Media types with the extensions that stand for them, in small letters. -/
def known : List (String × List String) :=
  applicationTypes ++ vendorTypes ++ audiovisualTypes ++ textualTypes

/-- The media type of bytes of which nothing is known. -/
def unknown : String := "application/octet-stream"

/-- The media type of an extension; letters count as alike up to case. -/
def ofExtension? (extension : List Char) : Option String :=
  let folded := String.ofList (Text.foldCase extension)
  (known.find? fun (_, extensions) => extensions.contains folded).map (·.1)

/-- The media type of a file with the given name. -/
def ofName (name : String) : String :=
  ((FileName.splitExtension name.toList).bind fun (_, extension) => ofExtension? extension).getD unknown

end DirectShare.MediaType
