/-! Result codes: numbers a server answers with, and the names of those that have one. -/
namespace Directory

structure ResultCode where
  number : UInt32
  deriving DecidableEq, Repr

namespace ResultCode

def success : ResultCode := ⟨0⟩
def timeLimitExceeded : ResultCode := ⟨3⟩
def sizeLimitExceeded : ResultCode := ⟨4⟩
def compareFalse : ResultCode := ⟨5⟩
def compareTrue : ResultCode := ⟨6⟩
def saslBindInProgress : ResultCode := ⟨14⟩
def canceled : ResultCode := ⟨118⟩

def isSuccess (code : ResultCode) : Bool := code == success

def catalogue : List (UInt32 × String) :=
  [ (0, "success"),
    (1, "operationsError"),
    (2, "protocolError"),
    (3, "timeLimitExceeded"),
    (4, "sizeLimitExceeded"),
    (5, "compareFalse"),
    (6, "compareTrue"),
    (7, "authMethodNotSupported"),
    (8, "strongerAuthRequired"),
    (10, "referral"),
    (11, "adminLimitExceeded"),
    (12, "unavailableCriticalExtension"),
    (13, "confidentialityRequired"),
    (14, "saslBindInProgress"),
    (16, "noSuchAttribute"),
    (17, "undefinedAttributeType"),
    (18, "inappropriateMatching"),
    (19, "constraintViolation"),
    (20, "attributeOrValueExists"),
    (21, "invalidAttributeSyntax"),
    (32, "noSuchObject"),
    (33, "aliasProblem"),
    (34, "invalidDNSyntax"),
    (36, "aliasDereferencingProblem"),
    (48, "inappropriateAuthentication"),
    (49, "invalidCredentials"),
    (50, "insufficientAccessRights"),
    (51, "busy"),
    (52, "unavailable"),
    (53, "unwillingToPerform"),
    (54, "loopDetect"),
    (64, "namingViolation"),
    (65, "objectClassViolation"),
    (66, "notAllowedOnNonLeaf"),
    (67, "notAllowedOnRDN"),
    (68, "entryAlreadyExists"),
    (69, "objectClassModsProhibited"),
    (71, "affectsMultipleDSAs"),
    (80, "other"),
    (118, "canceled"),
    (119, "noSuchOperation"),
    (120, "tooLate"),
    (121, "cannotCancel") ]

def name? (code : ResultCode) : Option String := catalogue.lookup code.number

def name (code : ResultCode) : String := code.name?.getD "unknown"

def isKnown (code : ResultCode) : Bool := code.name?.isSome

def text (code : ResultCode) : String := s!"{code.name} ({code.number.toNat})"

end ResultCode

structure Outcome where
  code : ResultCode
  matchedDn : String
  diagnostic : String
  referrals : List String
  deriving DecidableEq, Repr

end Directory
