import DirectShare.FileName
import DirectShare.Text.CodePage

/-!
# Names in an archive

An entry of an archive has a path, which comes from a stranger. It must not lead out of the folder
into which the archive is unpacked, so only its last component is used, and that of no path that
climbs above its start.

`entryName` is the path of an entry as text, `isFolder` tells folders by their last character, and
`fileName?` gives the name under which a file is unpacked, if its path is safe.
-/

namespace DirectShare.Archive

/-- The path of an entry, in UTF-8 or in the code page of early archives. -/
def entryName (utf8 : Bool) (raw : Bytes) : String :=
  if utf8 then Utf8.repair raw else CodePage.decode raw

/-- Whether a path is that of a folder: it ends in a slash or a backslash. -/
def isFolder (path : String) : Bool :=
  match path.toList.getLast? with
  | some c => c = '/' || c = '\\'
  | none => false

/-- Whether steps, taken from a folder of the given depth, never climb above it. -/
def staysBelow : (depth : Nat) → List (List Char) → Bool
  | _, [] => true
  | depth, p :: ps =>
    if p = ['.', '.'] then depth ≠ 0 && staysBelow (depth - 1) ps else staysBelow (depth + 1) ps

/-- The name under which the file with a path is unpacked: the last component. There is none if the
path starts at the root, climbs above its start, ends in a step up or holds a null character. -/
def fileName? (path : String) : Option String :=
  let cs := path.toList
  if cs.contains '\x00' ∨ cs.head? = some '/' ∨ staysBelow 0 (FileName.steps cs) = false then none
  else (FileName.ofPath? cs).map String.ofList

/-- A name that is given is one component of a path. -/
theorem isComponent_of_fileName? {path name : String} (h : fileName? path = some name) :
    FileName.IsComponent name.toList := by
  simp only [fileName?] at h
  split at h
  · contradiction
  · next hsafe =>
    simp only [not_or] at hsafe
    obtain ⟨p, hp, rfl⟩ := Option.map_eq_some_iff.1 h
    simpa using FileName.isComponent_of_ofPath? (by simpa using hsafe.1) hp

end DirectShare.Archive
