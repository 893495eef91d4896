import ClaimCheck.Table

/-!
The header names by which an envelope says that its body lies in a store. They are shared with every
other party on the wire and never change.
-/
namespace ClaimCheck

abbrev Headers := Table String

namespace Headers

def modeName : String := "liaison.payload.mode"
def referenceName : String := "liaison.payload.ref"
def digestName : String := "liaison.payload.sha256"
def sizeName : String := "liaison.payload.size"
def encodingName : String := "liaison.payload.encoding"
def expiresName : String := "liaison.payload.expires"

def inlineMode : String := "inline"
def externalMode : String := "external"
def gzipEncoding : String := "gzip"

/-- The names that applications leave alone. -/
def reserved : List String :=
  [modeName, referenceName, digestName, sizeName, encodingName, expiresName]

def isReserved (name : String) : Bool :=
  reserved.contains name

end Headers
end ClaimCheck
