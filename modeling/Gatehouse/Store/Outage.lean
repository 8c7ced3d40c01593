import Gatehouse.Store.Memory

/-!
# Stores in trouble

A store some of whose operations fail.  A failing operation leaves the store as it is, so that what
the service does about failures can be studied one operation at a time.

Main definitions: `Query.operation`, `Outages` and `Memory.answerDuring`.
-/

namespace Gatehouse.Store

/-- The name of the operation that a query asks for. -/
def Query.operation : Query → String
  | .userById _ => "get_user_by_id"
  | .userByName _ => "get_user_by_name"
  | .userByEmail _ => "get_user_by_email"
  | .primaryEmail _ => "get_primary_email"
  | .rolesOfUser _ => "get_roles_for_user"
  | .permissionsOfRole _ => "get_role_permissions"
  | .takeRecoveryCode .. => "check_and_delete_recovery_code"
  | .reject _ => "reject_token"
  | .isRejected _ => "is_token_rejected"
  | .dropRejections _ => "delete_expired_rejections"
  | .addApiToken .. => "create_api_token"
  | .apiTokenByDigest _ => "get_api_token_by_hash"
  | .apiTokensOfUser _ => "get_api_tokens_for_user"
  | .rolesOfApiToken _ => "get_roles_for_api_token"
  | .removeApiToken .. => "revoke_api_token"
  | .ping => "ping"

/-- The failures of operations, by name. -/
abbrev Outages := Table Failure

/-- How an operation fails. -/
def Failure.ofMode (operation : String) : String → Failure
  | "not_found" => .notFound
  | "row_not_found" => .noRow
  | _ => .other (operation ++ " failed")

/-- Answer a query, unless its operation fails. -/
def Memory.answerDuring (outages : Outages) (m : Memory) (q : Query) : Reply q × Memory :=
  match outages.find? q.operation with
  | some failure => (.error failure, m)
  | none => m.answer q

end Gatehouse.Store
