import LeaseBroker.Credentials

/-!
What statements make of roles. A statement that creates a role may name others
that become members of it, and who is a member of a role may act in its place.
The statements that the broker runs on its own account are put together from
templates; what matters of them here is which of them create a role with
members (`render_createObjectsOwner`, `render_creation`), and which do not.
-/
namespace LeaseBroker

/-- What a statement that creates a role says of it between its name and its members. -/
inductive RoleOption where
  | login (password : String)
  | inherit
  | inRole (role : String)
  | validUntil (expiration : String)
  deriving DecidableEq, Repr

/-- A statement that creates a role with members. -/
structure RoleCreation where
  role : String
  options : List RoleOption
  member : String
  /-- The members after the first one. -/
  others : List String
  deriving DecidableEq, Repr

def RoleOption.chars : RoleOption → List Char
  | login password => " with login password ".toList ++ (Fragment.literal password).chars
  | inherit => " inherit".toList
  | inRole role => " in role ".toList ++ (Fragment.identifier role).chars
  | validUntil expiration => " valid until ".toList ++ (Fragment.literal expiration).chars

namespace RoleCreation

def listed (others : List String) : List Char := others.flatMap fun m => ", ".toList ++ (Fragment.identifier m).chars

def chars (c : RoleCreation) : List Char :=
  "create role ".toList ++ (Fragment.identifier c.role).chars ++ c.options.flatMap RoleOption.chars ++
    " role ".toList ++ (Fragment.identifier c.member).chars ++ listed c.others

def sql (c : RoleCreation) : String := String.ofList c.chars

end RoleCreation

/-- A statement makes `member` a member of `role`, which it creates. -/
def Enrols (sql role member : String) : Prop :=
  ∃ c : RoleCreation, c.sql = sql ∧ c.role = role ∧ member ∈ c.member :: c.others

open Template (pieces Piece render renderChars slot)

/-! ## Statements that create a role with members -/

/-- The names of the slots that the broker fills. -/
def slotNames : List String :=
  ["role_name", "role_group_management", "role_group_root", "user", "password", "objects_owner", "expiration", "group",
    "database"]

theorem slotName_of_mem : ∀ name ∈ slotNames, Piece.slotName name.toList = name := by decide +kernel

/-- A slot is filled with the fragment that is bound to its name. -/
theorem fill_slot {bindings : Bindings} (name : String) {fragment : Fragment} (known : name ∈ slotNames)
    (bound : bindings.get? name = some fragment) : (Piece.slot name.toList).fill bindings = fragment.chars := by
  simp only [Piece.fill, slotName_of_mem name known, bound]

section Owner
variable (cluster : ClusterRecord) (owner : String)

theorem pieces_createObjectsOwner : pieces Statements.createObjectsOwner.toList =
    [.plain "create role ".toList, .slot "role_name".toList, .plain " role ".toList,
      .slot "role_group_management".toList, .plain ", ".toList, .slot "role_group_root".toList, .plain []] := by
  unfold Statements.createObjectsOwner
  simp only [String.toList_append]
  decide +kernel

theorem get?_objectsOwnerBindings :
    (Fleet.objectsOwnerBindings cluster owner).get? "role_name" = some (.identifier owner) ∧
    (Fleet.objectsOwnerBindings cluster owner).get? "role_group_management" = some (.identifier cluster.managementRole) ∧
    (Fleet.objectsOwnerBindings cluster owner).get? "role_group_root" = some (.identifier cluster.username) := by
  simp [Fleet.objectsOwnerBindings, Bindings.get?, Bindings.identifier, Bindings.empty, List.lookup_cons]

/-- The management role and the root role of a cluster become members of the owner of a database's objects. -/
theorem render_createObjectsOwner : render Statements.createObjectsOwner (Fleet.objectsOwnerBindings cluster owner) =
    RoleCreation.sql ⟨owner, [], cluster.managementRole, [cluster.username]⟩ := by
  obtain ⟨bound, bound', bound''⟩ := get?_objectsOwnerBindings cluster owner
  have role := fill_slot "role_name" (by simp [slotNames]) bound
  have management := fill_slot "role_group_management" (by simp [slotNames]) bound'
  have root := fill_slot "role_group_root" (by simp [slotNames]) bound''
  rw [render, renderChars, pieces_createObjectsOwner]
  simp only [List.flatMap_cons, List.flatMap_nil]
  rw [role, management, root]
  show String.ofList _ = String.ofList (RoleCreation.chars _)
  unfold RoleCreation.chars RoleCreation.listed Piece.fill
  -- What stands between the slots is the same on both sides, and not to be evaluated.
  generalize "create role ".toList = a
  generalize " role ".toList = b
  generalize ", ".toList = c
  simp

end Owner

section Login
variable (username password expiration owner group : String)

/-- The statement of the default creation statements that creates the login. -/
def loginCreation : String :=
  "create role " ++ slot "user" ++ " with login password " ++ slot "password" ++ " inherit in role " ++
    slot "objects_owner" ++ " valid until " ++ slot "expiration" ++ " role " ++ slot "group"

theorem trimmed_creation : ∃ rest, Credentials.trimmed Statements.creation = loginCreation :: rest := by
  have chars : Blank.trim loginCreation.toList = loginCreation.toList := by
    unfold loginCreation
    simp only [String.toList_append]
    decide +kernel
  have whole : Blank.trimText loginCreation = loginCreation := (congrArg String.ofList chars).trans String.ofList_toList
  have written : loginCreation.isEmpty = false := by decide +kernel
  refine ⟨Credentials.trimmed Statements.creation.tail, ?_⟩
  show List.filter _ (Blank.trimText loginCreation :: _) = loginCreation :: List.filter _ _
  rw [whole]
  exact List.filter_cons_of_pos (by rw [written]; rfl)

theorem pieces_loginCreation : pieces loginCreation.toList =
    [.plain "create role ".toList, .slot "user".toList, .plain " with login password ".toList,
      .slot "password".toList, .plain " inherit in role ".toList, .slot "objects_owner".toList,
      .plain " valid until ".toList, .slot "expiration".toList, .plain " role ".toList, .slot "group".toList,
      .plain []] := by
  unfold loginCreation
  simp only [String.toList_append]
  decide +kernel

theorem get?_issueBindings :
    (Credentials.issueBindings username password expiration owner group).get? "user" = some (.identifier username) ∧
    (Credentials.issueBindings username password expiration owner group).get? "password" = some (.literal password) ∧
    (Credentials.issueBindings username password expiration owner group).get? "objects_owner" = some (.identifier owner) ∧
    (Credentials.issueBindings username password expiration owner group).get? "expiration" = some (.literal expiration) ∧
    (Credentials.issueBindings username password expiration owner group).get? "group" = some (.identifier group) := by
  simp [Credentials.issueBindings, Bindings.get?, Bindings.identifier, Bindings.literal, Bindings.empty, List.lookup_cons]

/-- The group that a login is created for becomes a member of it. -/
theorem render_loginCreation : render loginCreation (Credentials.issueBindings username password expiration owner group) =
    RoleCreation.sql ⟨username, [.login password, .inherit, .inRole owner, .validUntil expiration], group, []⟩ := by
  obtain ⟨bound, bound', bound'', bound₃, bound₄⟩ := get?_issueBindings username password expiration owner group
  have user := fill_slot "user" (by simp [slotNames]) bound
  have secret := fill_slot "password" (by simp [slotNames]) bound'
  have inRole := fill_slot "objects_owner" (by simp [slotNames]) bound''
  have validUntil := fill_slot "expiration" (by simp [slotNames]) bound₃
  have member := fill_slot "group" (by simp [slotNames]) bound₄
  rw [render, renderChars, pieces_loginCreation]
  simp only [List.flatMap_cons, List.flatMap_nil]
  rw [user, secret, inRole, validUntil, member]
  show String.ofList _ = String.ofList (RoleCreation.chars _)
  unfold RoleCreation.chars RoleCreation.listed Piece.fill
  rw [show " inherit in role ".toList = " inherit".toList ++ " in role ".toList by decide +kernel]
  unfold RoleOption.chars
  generalize "create role ".toList = a
  generalize " with login password ".toList = b
  generalize " inherit".toList = c
  generalize " in role ".toList = d
  generalize " valid until ".toList = e
  generalize " role ".toList = f
  simp

end Login

/-! ## Statements that give a role no members -/

theorem getLast?_identifier (name : String) : (Fragment.identifier name).chars.getLast? = some '"' := by
  show ('"' :: _ ++ ['"']).getLast? = _
  rw [List.getLast?_append]
  rfl

theorem getLast?_literal (value : String) : (Fragment.literal value).chars.getLast? = some '\'' := by
  show (Fragment.literalChars value.toList).getLast? = _
  unfold Fragment.literalChars
  split
  all_goals
    rw [List.getLast?_append]
    rfl

/-- A statement that creates a role with members ends with a quoted name. -/
theorem RoleCreation.getLast?_chars (c : RoleCreation) : c.chars.getLast? = some '"' := by
  unfold chars listed
  rcases c.others.eq_nil_or_concat with none | ⟨before, last, some⟩
  · rw [none, List.flatMap_nil, List.append_nil, List.getLast?_append, getLast?_identifier]
    rfl
  · rw [some, List.concat_eq_append, List.flatMap_append, List.flatMap_cons, List.flatMap_nil, List.append_nil,
      List.getLast?_append, List.getLast?_append, List.getLast?_append, getLast?_identifier]
    rfl

theorem not_enrols_of_getLast? {cs : List Char} (other : cs.getLast? ≠ some '"') (role member : String) :
    ¬Enrols (String.ofList cs) role member := by
  rintro ⟨c, same, -, -⟩
  have chars : c.chars = cs := String.ofList_injective same
  exact other (chars ▸ c.getLast?_chars)

theorem pieces_createManagementRole : pieces Statements.createManagementRole.toList =
    [.plain "create role ".toList, .slot "user".toList, .plain " with login password ".toList,
      .slot "password".toList, .plain " createrole nocreatedb noinherit".toList] := by
  unfold Statements.createManagementRole
  simp only [String.toList_append]
  decide +kernel

theorem pieces_updatePassword : pieces Statements.updatePassword.toList =
    [.plain "alter user ".toList, .slot "user".toList, .plain " with password ".toList, .slot "password".toList,
      .plain []] := by
  unfold Statements.updatePassword
  simp only [String.toList_append]
  decide +kernel

/-- A new management role has no members. -/
theorem not_enrols_createManagementRole (bindings : Bindings) (role member : String) :
    ¬Enrols (render Statements.createManagementRole bindings) role member := by
  obtain ⟨before, parts⟩ : ∃ before, pieces Statements.createManagementRole.toList =
      before ++ [.plain " createrole nocreatedb noinherit".toList] := ⟨[_, _, _, _], pieces_createManagementRole⟩
  apply not_enrols_of_getLast?
  rw [renderChars, parts, List.flatMap_append, List.flatMap_cons, List.flatMap_nil, List.append_nil,
    List.getLast?_append]
  have last : " createrole nocreatedb noinherit".toList.getLast? = some 't' := by decide +kernel
  show ((" createrole nocreatedb noinherit".toList.getLast?).or _) ≠ _
  rw [last]
  simp

/-- To change a password makes nobody a member of anything. -/
theorem not_enrols_updatePassword (user password role member : String) :
    ¬Enrols (render Statements.updatePassword ((Bindings.empty.identifier "user" user).literal "password" password))
      role member := by
  obtain ⟨before, parts⟩ : ∃ before, pieces Statements.updatePassword.toList =
      before ++ [.slot "password".toList, .plain []] := ⟨[_, _, _], pieces_updatePassword⟩
  have bound : ((Bindings.empty.identifier "user" user).literal "password" password).get? "password" =
      some (.literal password) := by
    simp [Bindings.get?, Bindings.literal]
  apply not_enrols_of_getLast?
  rw [renderChars, parts, List.flatMap_append, List.flatMap_cons, fill_slot "password" (by simp [slotNames]) bound]
  show (_ ++ ((Fragment.literal password).chars ++ [])).getLast? ≠ _
  rw [List.append_nil, List.getLast?_append, getLast?_literal]
  simp

end LeaseBroker
