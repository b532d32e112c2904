import LinkedData.Text.Split

/-!
# LinkedData.Text.Images -- tables that give texts for characters

A table is written in rows. A row names a code point and holds the images of that code point
and of those after it, with a space between them; where two spaces stand side by side, a code
point has no image.
-/

namespace LinkedData.Text

/-- A code point, and the images of it and of those that follow it. -/
abbrev ImageRow := Nat × String

/-- Code points and their images. -/
abbrev ImageTable := List (Nat × List Char)

/-- The images that a row holds. -/
def ImageRow.images (row : ImageRow) : ImageTable :=
  (((splitAt ' ' row.2.toList).zipIdx row.1).map fun (image, n) => (n, image)).filter fun i =>
    !i.2.isEmpty

/-- The table that rows make up. -/
def imageTable (rows : List ImageRow) : ImageTable :=
  rows.flatMap ImageRow.images

/-- The image of a character. -/
def ImageTable.image? (table : ImageTable) (c : Char) : Option (List Char) :=
  table.lookup c.toNat

end LinkedData.Text
