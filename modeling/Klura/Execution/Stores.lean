import Klura.Execution.Cascade
import Klura.Library.Footprints

/-! What outlives an execution, by what it is kept under, and what each operation reads and writes of
it. -/

namespace Klura

/-- What an entry of a store is kept under. -/
inductive StoreKeyV1 where
  /-- The file of a cookie jar. -/
  | jar (file : Units)
  /-- The warm session of an account. -/
  | session (platform identity : Units)
  | results (platform identity capability : Units)
  | token (platform name : Units)
  /-- The health record of a capability, with the failures of Node's transport. -/
  | health (platform capability : Units)
  /-- The strategies of a platform, saved and archived, with their proofs. -/
  | strategies (platform : Units)
  deriving DecidableEq

/-- The file of the cookie jar of an account. -/
def storageStatePath (platform : Units) (identity : Option Units) : Units :=
  if identityName identity = ascii "default" then platform ++ ascii ".json"
  else platform ++ ascii "--" ++ identityName identity ++ ascii ".json"

/-- The jar of an account. -/
def jarOf (platform : Units) (identity : Option Units) : StoreKeyV1 :=
  .jar (storageStatePath platform identity)

/-- The session of an account that stays warm. -/
def SessionV1.key (session : SessionV1) : StoreKeyV1 :=
  .session session.platform (identityName session.identity)

/-- What an operation that does not throw reads. -/
def SureOpV1.reads : SureOpV1 → List StoreKeyV1
  | .shouldSkipBrokenTier platform capability _ | .updateHealth platform capability ..
  | .getHealthIsBroken platform capability _
  | .recordNodeTransportFailure platform capability .. => [.health platform capability]
  | .tokenGet platform name => [.token platform name]
  | .capabilityCacheGet platform identity capability _
  | .capabilityCacheSet platform identity capability ..
  | .evictForCapability platform identity capability =>
    [.results platform (identityName identity) capability]
  | .readStorageStateCookies platform identity _
  | .writeStorageStateCookies platform identity .. | .loadStorageStatePath platform identity =>
    [jarOf platform identity]
  | .sendNodeRequest .. | .readBody .. | .sendNodeWebSocketFrame .. => []
  | .getUrl session | .waitForWsOpen session _ | .endDriveQuietly session => [session.key]

/-- What an operation that does not throw writes. -/
def SureOpV1.writes : SureOpV1 → List StoreKeyV1
  | .shouldSkipBrokenTier .. | .getHealthIsBroken .. | .readStorageStateCookies ..
  | .loadStorageStatePath .. => []
  | op => op.reads

/-- What an operation that may throw reads. -/
def RiskyOpV1.reads : RiskyOpV1 → List StoreKeyV1
  | .loadStrategies platform _ | .loadStrategy platform _
  | .findCapabilitiesProviding platform _ | .isTierAllowed platform ..
  | .archiveStrategy platform .. | .demoteFetchToPageScript platform _
  | .stampPostSaveValidationProof platform .. => [.strategies platform]
  | .isCapabilityForbidden .. | .getIdentity .. | .acquirePermit .. | .releasePermit _ => []
  | .tokenSet platform name .. => [.token platform name]
  | .saveStorageState platform identity => [jarOf platform identity]
  | .driverSaveStorageState session platform identity => [session.key, jarOf platform identity]
  | .tryCheckoutReadySession platform identity .. => [.session platform (identityName identity)]
  | .createSession platform identity _ =>
    [.session platform (identityName identity), jarOf platform identity]
  | .runBrowserPrereq session .. | .fireInterrupts session .. | .navigate session _
  | .fetchInBrowser _ session _ | .htmlToAriaLikeTree session _ | .runWsOpenSteps session _
  | .evaluateFrame session .. | .sendWebSocketFrame _ session .. | .waitForAck session _
  | .executeSteps _ session .. | .replayStep _ session .. | .endDrive session => [session.key]

/-- What an operation that may throw writes. -/
def RiskyOpV1.writes : RiskyOpV1 → List StoreKeyV1
  | .loadStrategies .. | .loadStrategy .. | .findCapabilitiesProviding .. | .isTierAllowed .. => []
  | op => op.reads

/-- What an operation reads. -/
def LocalOpV1.reads : LocalOpV1 → List StoreKeyV1
  | .sure op => op.reads
  | .risky op => op.reads

/-- What an operation writes. -/
def LocalOpV1.writes : LocalOpV1 → List StoreKeyV1
  | .sure op => op.writes
  | .risky op => op.writes

end Klura
