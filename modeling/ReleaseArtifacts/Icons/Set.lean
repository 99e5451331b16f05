import ReleaseArtifacts.Path.Join

namespace ReleaseArtifacts

/-!
# Icon sets

An application has one master icon and, in a theme directory, the same icon in several sizes.

* `IconSet.outputPath` — where the icon of a size belongs.
* `iconSizes` — the sizes that are made.
-/

/-- The icons of an application. -/
structure IconSet where
  application : String
deriving DecidableEq, Repr

/-- The sizes that are made, in pixels on a side. -/
def iconSizes : List Nat := [16, 24, 32, 48, 64, 128, 256, 512]

namespace IconSet

/-- Where the master icon is. -/
def source : String := "assets/icon.png"

/-- The directory of the icon theme. -/
def themeDirectory : String := "assets/icons/hicolor"

/-- The directory of a size. -/
def sizeDirectory (size : Nat) : String := toString size ++ "x" ++ toString size

/-- Where the icon of a size belongs. -/
def outputPath (s : IconSet) (size : Nat) : String :=
  Path.join (Path.join (Path.join themeDirectory (sizeDirectory size)) "apps")
    (s.application ++ ".png")

end IconSet

end ReleaseArtifacts
