import ZkArche.Client.Auth
import ZkArche.Client.SetupMain

namespace ZkArche.Client

open Foundation

variable {β S P : Type} [Octet β] [Field S] [AddCommGroup P] [Module S P]
variable [DecidableEq β] [DecidableEq P]

/-- `main` with `--setup` while the disk takes every write, and what the setup in it hands back. -/
def runSetup (G : Suite β S P) (root : Block β 32) (pairingToken : Option String) (allowTofuSetup : Bool)
    (random : SetupRandom β S) : Effect Failure (Connected β) (Enrollee S P × SetupChallenge β S P) :=
  setupCommand G none root pairingToken allowTofuSetup .none random

/-- `main` without `--setup`. A device without a root does nothing. -/
def runAuth (G : Suite β S P) (allowedRoles : List UInt64) (vars : Vars) (root : Block β 32) (random : AuthRandom β S) :
    Effect Failure (Connected β) (Option (AuthSession β S P)) := do
  let files ← readFiles
  Effect.lift (verifyIfPresent deviceRootFile files.deviceRoot)
  Effect.lift (verifyIfPresent serverPubFile files.serverPub)
  if files.deviceRoot.isPresent then do
    let creds ← onDeviceRoot (loadDeviceCredsFromRoot G none root)
    let session ← doAuthV2Session G allowedRoles vars creds.2 .none random
    pure (some session)
  else pure none

end ZkArche.Client
