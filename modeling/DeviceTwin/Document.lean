import DeviceTwin.Component
import DeviceTwin.TokenStream

/-!
# Property documents

A document is an object. A change of desired properties is walked as it is; the answer to a request
for the whole document has a section of desired and one of reported properties, and one of these is
walked.
-/
namespace DeviceTwin

namespace Document

def versionKey : String := "$version"
def metadataKey : String := "$metadata"

/-- The section of the properties that the service sets. -/
def desiredSection : String := "desired"

/-- The section of the properties that the device reports. -/
def reportedSection : String := "reported"

/-- Whether a name belongs to the document and not to a property. -/
def isReserved (name : String) : Bool := name = versionKey || name = metadataKey

end Document

/-- Which properties of a document are walked. -/
inductive PropertyFilter where
  | writeableOnly
  | allReportedByDevice
  deriving DecidableEq, Repr

def PropertyFilter.section : PropertyFilter → String
  | writeableOnly => Document.desiredSection
  | allReportedByDevice => Document.reportedSection

namespace TokenStream

/-- From a name, moves past it and its value. -/
def skipMember : Attempt TokenStream Unit := do
  advance
  skipValue
  advance

/-- Whether the stream is on the opening brace of a document. -/
def atDocument (s : TokenStream) : Bool := s.current? = some (.beginObject, 0)

end TokenStream
end DeviceTwin
