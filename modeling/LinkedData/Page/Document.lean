import LinkedData.JsonLd.Document
import LinkedData.Page.Base
import LinkedData.Page.Block

/-!
# LinkedData.Page.Document -- the quads of a page

Every block of a page is a document of its own, so that the labels of its blank nodes mean
nothing in the other blocks; all blocks share the base of the page.
-/

namespace LinkedData.Page

/-- The quads of a page that was retrieved from `url`. -/
def quadsOf (page : String) (url : Option String) : Except Document.Error Rdf.Graph :=
  match documents page with
  | .ok blocks => JsonLd.quadsOf (base page url) blocks
  | .error e => .error e

end LinkedData.Page
