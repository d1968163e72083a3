-- Names of the net. A name is known by its form in ASCII: two names that
-- differ only in case, in the shape of letters or in the way in which marks
-- are put on them have the same one.
import CueStream.Domain.Label

namespace CueStream.Domain

/-- The ASCII form of a name, if it is one. A label may be empty. -/
def ofText? (t : Text) : Option Text := do
  let forms ← t.mapM form?
  let labels ← (Text.parts (· = '.') (Text.composed forms.flatten)).mapM shown?
  if labels.all isSound && (!labels.any hasLeftward || labels.all keepsDirection) then
    some (Text.joinWith '.' (labels.map ascii))
  else none

end CueStream.Domain
