import CodexOrchestrator.Lib.Raise
import CodexOrchestrator.Lib.Split
import CodexOrchestrator.State.Payloads

/-!
# Auth — bearer tokens of the development service

`app/services/auth.py`.  A seed string lists the tokens with their actors; the service looks the
token of an `Authorization` header up among them.
-/

namespace CodexOrchestrator

open PyText

/-- `AuthenticationError(message)`. -/
def authenticationError (message : String) : PyError := .other "AuthenticationError" message

/-! ## The tokens -/

def defaultTokenMap : Dict ActorContext where
  entries :=
    [("dev-owner-token", { actorId := "owner-1", actorRole := .owner }),
      ("dev-operator-token", { actorId := "operator-1", actorRole := .operator }),
      ("dev-approver-token", { actorId := "approver-1", actorRole := .approver }),
      ("dev-admin-token", { actorId := "admin-1", actorRole := .admin }),
      ("dev-viewer-token", { actorId := "viewer-1", actorRole := .viewer })]
  nodup := by decide

/-- The entry of the trimmed fields of an item, `token:actor_id:actor_role:actor_type`; `none` where
    the loop goes on to the next item. -/
def entryOfParts (parts : List String) : Option (String × ActorContext) :=
  match parts with
  | [token, actorId, actorRole, actorType] =>
      if token = "" ∨ actorId = "" then none
      else do
        let parsedRole ← memberOf ActorRole.members ActorRole.value (lower actorRole)
        let parsedType ← memberOf ActorType.members ActorType.value (lower actorType)
        some (token, ⟨actorId, parsedRole, parsedType⟩)
  | _ => none

def parseSeedItem (item : String) : Option (String × ActorContext) :=
  let raw := strip item
  if raw = "" then none else entryOfParts ((splitOn ':' raw).map strip)

def parseTokenSeed (seed : Option String) : Dict ActorContext :=
  match seed with
  | none => defaultTokenMap
  | some seed =>
      if seed = "" then defaultTokenMap
      else
        let mapping := Dict.setEach parseSeedItem Dict.empty (splitOn ',' seed)
        if mapping.entries = [] then defaultTokenMap else mapping

/-! ## The service -/

structure DevTokenAuthService where
  tokenMap : Dict ActorContext
  enabled : Bool := true

def DevTokenAuthService.resolveActor (service : DevTokenAuthService)
    (authorizationHeader : Option String) : Except PyError ActorContext :=
  if !service.enabled then
    .ok { actorId := "auth-disabled", actorRole := .admin, actorType := .system }
  else
    let header := authorizationHeader.getD ""
    if header = "" then .error (authenticationError "Missing Authorization header.")
    else
      match splitOnce (strip header) with
      | [scheme, rest] =>
          let token := strip rest
          if lower scheme ≠ "bearer" ∨ token = "" then
            .error (authenticationError "Authorization must be Bearer token.")
          else
            match service.tokenMap.get? token with
            | some actor => .ok actor
            | none => .error (authenticationError "Invalid bearer token.")
      | _ => .error (authenticationError "Authorization must be Bearer token.")

end CodexOrchestrator
