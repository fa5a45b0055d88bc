import DemuxSession.Bytes

/-!
# Cover pictures
-/

namespace DemuxSession

/-- The picture format of a cover. -/
inductive CoverKind where
  | jpeg
  | png
  | bmp
  deriving DecidableEq

namespace CoverKind

/-- The number the demuxer library uses for the format. -/
def code : CoverKind → Int32
  | .jpeg => 0
  | .png => 1
  | .bmp => 2

/-- The format of a number; none for a number without a format. -/
def ofCode? (code : Int32) : Option CoverKind :=
  if code = 0 then some .jpeg
  else if code = 1 then some .png
  else if code = 2 then some .bmp
  else none

/-- The name of the format. -/
def name : CoverKind → String
  | .jpeg => "JPEG"
  | .png => "PNG"
  | .bmp => "BMP"

/-- The usual ending of a file in the format. -/
def fileExtension : CoverKind → String
  | .jpeg => "jpg"
  | .png => "png"
  | .bmp => "bmp"

@[simp] theorem ofCode?_code (kind : CoverKind) : ofCode? kind.code = some kind := by
  cases kind <;> decide

end CoverKind

/-- The cover picture embedded in a file. -/
structure Cover where
  kind : CoverKind
  data : Bytes
  deriving DecidableEq

end DemuxSession
