import Dialogue.Schema.Catalogue
import Dialogue.Schema.Standard.Draft2019
import Dialogue.Schema.Standard.Draft2020
import Dialogue.Schema.Standard.Early

/-!
# The schemas of the drafts

What a schema of each draft looks like is itself written as schemas. Every document can refer to
them.
-/
namespace Dialogue

/-- The schemas of the drafts. -/
def Standard.documents : List (Draft × Json) :=
  [(.draft4, draft4), (.draft6, draft6), (.draft7, draft7)] ++
    Draft2019.documents.map (.draft2019, ·) ++ Draft2020.documents.map (.draft2020, ·)

/-- What is known before any document. -/
def Catalogue.standard : Catalogue :=
  Standard.documents.foldl (fun known (draft, document) => known.withDocument draft document) {}

end Dialogue
