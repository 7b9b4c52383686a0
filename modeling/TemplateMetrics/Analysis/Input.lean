import TemplateMetrics.Failure
import TemplateMetrics.Path

/-!
Templates to be analyzed, with the text that was read or the reason why there is none.
-/

namespace TemplateMetrics

structure Input where
  path : String
  source : Except Failure String
  /-- There is no text only where it could not be read. -/
  unread : ∀ f, source = .error f → f.isReadFailure = true

namespace Input

def ofContent (path content : String) : Input where
  path := Path.normalize path
  source := .ok content
  unread := nofun

/-- A template whose file does not exist. -/
def ofMissing (path file : String) : Input where
  path := Path.normalize path
  source := .error (.notFound file)
  unread := by rintro _ ⟨⟩; rfl

/-- A template from the bytes of its file. -/
def ofBytes (path : String) (bytes : ByteArray) : Input where
  path := Path.normalize path
  source := match String.fromUTF8? bytes with
    | some content => .ok content
    | none => .error (.io "stream did not contain valid UTF-8")
  unread := by
    intro f h
    split at h <;> cases h
    rfl

end Input

end TemplateMetrics
