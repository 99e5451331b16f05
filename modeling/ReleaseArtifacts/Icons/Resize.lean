import ReleaseArtifacts.Fault.Basic
import ReleaseArtifacts.Icons.Format
import ReleaseArtifacts.Png.Decode
import ReleaseArtifacts.Png.Encode
import ReleaseArtifacts.Raster.Resample

namespace ReleaseArtifacts

/-!
# Resizing icons

* `Icon` — an image of a square picture.
* `decodeMaster` — the picture of a master icon.
* `resizeIcons` — the icons of several sizes, all of them or none.
-/

/-- An icon of a size. -/
structure Icon where
  size : Nat
  image : Bytes
deriving DecidableEq, Repr

/-- Why a file is no picture. -/
inductive PictureFault
  /-- the file is in no known format -/
  | unknownFormat
  /-- the file is in a format that is not read -/
  | unreadFormat (format : ImageFormat)
  /-- the image is not whole -/
  | damaged (cause : Png.Fault)
deriving DecidableEq, Repr

/-- The text of a fault. -/
def PictureFault.message : PictureFault → String
  | unknownFormat => "The image format could not be determined"
  | unreadFormat format => "The image format " ++ format.name ++ " is not supported"
  | damaged .malformed => "Format error decoding Png"
  | damaged .unexpectedEnd => "unexpected end of file"
  | damaged .tooLarge => "Memory limit exceeded"

/-- The picture in a file. -/
def decodePicture (bytes : Bytes) : Except PictureFault Picture :=
  match ImageFormat.ofBytes? bytes with
  | none => .error .unknownFormat
  | some .png =>
    match Png.decode bytes with
    | .ok decoded => .ok decoded.picture
    | .error cause => .error (.damaged cause)
  | some format => .error (.unreadFormat format)

/-- The icon of a size. -/
def resizeIcon (master : Picture) (size : Nat) : Except Png.EmptySide Icon := do
  let image ← Png.encode (master.raster.resample size size)
  return ⟨size, image⟩

/-- The icons of several sizes, in order.  If one of them cannot be made there are none. -/
def resizeIcons (origin : String) (source : Bytes) (sizes : List Nat) : Except Fault (List Icon) :=
  match decodePicture source with
  | .error cause => .error (.image origin cause.message)
  | .ok master =>
    (sizes.mapM (resizeIcon master)).mapError fun cause => .image origin cause.message

end ReleaseArtifacts
