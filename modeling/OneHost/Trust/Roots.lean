import OneHost.Certificate.Anchor
import OneHost.Certificate.Pem
import OneHost.Folder
import OneHost.Settings.Server
import OneHost.Trust.Verifier

/-!
# Roots of trust

Every chain of certificates ends in an anchor. Anchors are those that come with the program, those
in a file that the settings name, or both; without any there is nothing to trust. A file has to
contribute at least one.
-/

namespace OneHost.Trust

/-- The anchors: whether the bundled ones are among them, and the others. -/
structure Roots where
  bundled : Bool := false
  anchors : List Bytes := []
  deriving DecidableEq

/-- Why encrypted connections cannot be set up. -/
inductive SetupError where
  | unreadable (path : String) (error : FileError)
  | malformed (path : String)
  | noCertificates (path : String)
  | noAnchors
  | noRoots
  | refused (error : TrustError)
  deriving DecidableEq

namespace SetupError

/-- A path as it is shown. -/
def shown (path : String) : String := Text.quoteName (Text.encode path)

/-- The text of the failure, unless a part of it is in words that are not known. -/
def ownMessage? : SetupError → Option String
  | unreadable path error =>
    some ("failed to read CA file " ++ shown path ++ ": " ++ error.message)
  | malformed _ => none
  | noCertificates path => some ("CA file " ++ shown path ++ " contains no usable certificates")
  | noAnchors => some "no trust anchors configured"
  | noRoots =>
    some "failed to build certificate verifier: no root trust anchors were provided"
  | refused error => some ("TLS error: unexpected error: " ++ error.message)

end SetupError

namespace Roots

/-- Whether there is no anchor. -/
def isEmpty (roots : Roots) : Bool :=
  !roots.bundled && roots.anchors.isEmpty

/-- Add the anchors of a file. Certificates that cannot anchor trust are passed over. -/
def addFile (roots : Roots) (folder : Folder) (path : String) :
    Except SetupError Roots × List Event :=
  match folder.read path with
  | .error error => (.error (.unreadable path error), [])
  | .ok content =>
    match Certificate.Pem.certificates? content with
    | none => (.error (.malformed path), [])
    | some certificates =>
      let anchors := certificates.filter Certificate.Anchor.isFit
      let event :=
        Event.caCertificatesLoaded path anchors.length (certificates.length - anchors.length)
      if anchors.isEmpty then (.error (.noCertificates path), [event])
      else (.ok { roots with anchors := roots.anchors ++ anchors }, [event])

/-- The roots that settings ask for. -/
def ofSettings (settings : TrustSettings) (folder : Folder) :
    Except SetupError Roots × List Event :=
  let bundled : Roots := { bundled := settings.bundledRoots }
  let (roots, events) :=
    match settings.caFile with
    | some path => bundled.addFile folder path
    | none => (.ok bundled, [])
  match roots with
  | .error error => (.error error, events)
  | .ok roots => (if roots.isEmpty then .error .noAnchors else .ok roots, events)

end Roots

end OneHost.Trust
