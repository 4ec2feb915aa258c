import Chip8.IoError
import Chip8.Picture.Png

/-!
# Albums

An album is the directory that screenshots go to.  A screenshot is named for the
second in which it is taken, so a second one within it takes the place of the
first.
-/

namespace Chip8

/-- A directory for screenshots. -/
structure Album where
  /-- The path of the directory. -/
  directory : String
  /-- What keeps the directory from being written to, if anything does. -/
  obstacle? : Option IoError
  /-- The second in which screenshots are taken. -/
  second : Nat
  /-- The names of the screenshots with their pictures. -/
  pictures : List (String × Picture)

namespace Album

/-- An empty album. -/
def empty (directory : String) (obstacle? : Option IoError) : Album :=
  ⟨directory, obstacle?, 0, []⟩

/-- The name of a screenshot. -/
def pictureName (second : Nat) : String := "screenshot-" ++ toString second ++ ".png"

/-- The path of a name in a directory. -/
def pathOf (directory name : String) : String :=
  if directory.isEmpty then name
  else if directory.endsWith "/" then directory ++ name
  else directory ++ "/" ++ name

/-- Putting a picture into the album, with its path. -/
def save (album : Album) (picture : Picture) : Except IoError String × Album :=
  match album.obstacle? with
  | some error => (.error error, album)
  | none =>
      let name := pictureName album.second
      let others := album.pictures.filter fun entry => entry.1 ≠ name
      (.ok (pathOf album.directory name), { album with pictures := (name, picture) :: others })

end Album

end Chip8
