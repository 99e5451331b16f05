import ReleaseArtifacts.Png.Chunk

namespace ReleaseArtifacts

/-!
# Image formats

Formats are told apart by the bytes that files in them begin with.  Only one of them is read.

* `ImageFormat.ofBytes?` — the format of a file.
-/

/-- A format of images. -/
inductive ImageFormat
  | png
  | jpeg
  | gif
  | webP
  | tiff
  | dds
  | bmp
  | ico
  | hdr
  | avif
  | openExr
  | qoi
  | pnm
  | farbfeld
deriving DecidableEq, Repr

namespace ImageFormat

/-- The name of a format. -/
def name : ImageFormat → String
  | png => "Png"
  | jpeg => "Jpeg"
  | gif => "Gif"
  | webP => "WebP"
  | tiff => "Tiff"
  | dds => "Dds"
  | bmp => "Bmp"
  | ico => "Ico"
  | hdr => "Hdr"
  | avif => "Avif"
  | openExr => "OpenExr"
  | qoi => "Qoi"
  | pnm => "Pnm"
  | farbfeld => "Farbfeld"

/-- The bytes of a text, each of which has to be there. -/
def exactly (text : String) : List (Option UInt8) := text.toUTF8.toList.map some

/-- So many bytes of any value. -/
def anything (n : Nat) : List (Option UInt8) := List.replicate n none

/-- The bytes that files of a format begin with; where there is none, any byte will do. -/
def marks : List (List (Option UInt8) × ImageFormat) :=
  [(Png.signature.map some, png),
    ([0xFF, 0xD8, 0xFF].map some, jpeg),
    (exactly "GIF89a", gif),
    (exactly "GIF87a", gif),
    (exactly "RIFF" ++ anything 4 ++ exactly "WEBP", webP),
    (exactly "MM\x00*", tiff),
    (exactly "II*\x00", tiff),
    (exactly "DDS ", dds),
    (exactly "BM", bmp),
    ([0x00, 0x00, 0x01, 0x00].map some, ico),
    (exactly "#?RADIANCE", hdr),
    (exactly "\x00\x00" ++ anything 2 ++ exactly "ftypavif", avif),
    ([0x76, 0x2F, 0x31, 0x01].map some, openExr),
    (exactly "qoif", qoi),
    (exactly "P1", pnm),
    (exactly "P2", pnm),
    (exactly "P3", pnm),
    (exactly "P4", pnm),
    (exactly "P5", pnm),
    (exactly "P6", pnm),
    (exactly "P7", pnm),
    (exactly "farbfeld", farbfeld)]

/-- Whether bytes begin as a mark says. -/
def fits : (mark : List (Option UInt8)) → (bytes : Bytes) → Bool
  | [], _ => true
  | _ :: _, [] => false
  | m :: mark, b :: bytes => m.all (· = b) && fits mark bytes

/-- The format of a file. -/
def ofBytes? (bytes : Bytes) : Option ImageFormat :=
  (marks.find? fun m => fits m.1 bytes).map (·.2)

end ImageFormat

end ReleaseArtifacts
