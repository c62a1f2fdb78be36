import ApiCatalog.Config.Basic
import ApiCatalog.Identity.DirectoryServer
import ApiCatalog.Identity.SearchFilter
import ApiCatalog.Identity.User

/-! # Directories

Looking for users in an LDAP directory. A server that cannot be reached, refuses the caller or
reports a failure knows nobody.
-/

namespace ApiCatalog

/-- The first value of an attribute, unless it is empty. -/
def DirectoryEntry.first? (entry : DirectoryEntry) (name : String) : Option String :=
  ((entry.attributes.lookup name).bind List.head?).filter fun value => !value.isEmpty

namespace DirectoryConfig

/-- The name of the attribute that identifies the users: what stands before the first equals sign
of the configured filter, or `uid` for lack of it. -/
def identifier (config : DirectoryConfig) : String :=
  let before := config.userSearchFilter.toList.takeWhile (· != '=')
  let name := Text.trimChars ((Text.trimChars before).dropWhile (· == '('))
  if name.isEmpty then "uid" else String.ofList name

/-- The name of the entry below which users are looked for. -/
def searchBase (config : DirectoryConfig) : String :=
  match config.userSearchBase.map Text.trim with
  | none => config.contextSourceBase
  | some base =>
    if base.isEmpty then config.contextSourceBase else s!"{base},{config.contextSourceBase}"

def searchFilter (config : DirectoryConfig) (query : String) : SearchFilter :=
  .forUsers config.userSearchObjectclass.toList config.identifier.toList query.toList

def user (config : DirectoryConfig) (entry : DirectoryEntry) : User :=
  let firstname := entry.first? "givenName"
  let lastname := entry.first? "sn"
  let id := (entry.first? config.identifier).getD entry.dn
  { id
    reference := entry.dn
    source := config.source
    email := entry.first? "mail"
    firstname
    lastname
    displayName := ((entry.first? "displayName").or (fullName? firstname lastname)).getD id }

/-- The name and the password that the caller gives. The password is empty for lack of one. -/
def caller (config : DirectoryConfig) : Option (String × String) :=
  config.bindDn.map fun name => (name, config.bindPassword.getD "")

def attributes (config : DirectoryConfig) : List String :=
  ["givenName", "sn", "mail", "displayName", config.identifier]

/-- What the server is asked in order to find the users of a query. -/
def userQuery (config : DirectoryConfig) (query : String) : DirectoryQuery where
  base := config.searchBase
  scope := .subtree
  filter := String.ofList (config.searchFilter query).text
  attributes := config.attributes
  sizeLimit := 20
  timeLimit := 5

/-- What the server is asked in order to find the user with a distinguished name. -/
def entryQuery (config : DirectoryConfig) (dn : String) : DirectoryQuery where
  base := dn
  scope := .base
  filter := "(objectClass=*)"
  attributes := config.attributes

/-- The server of the configuration, if it can be reached and lets the caller in. -/
def server? (config : DirectoryConfig) (network : Directory.Network) : Option DirectoryServer :=
  (network.lookup config.url).filter fun server =>
    server.connects config.connectTimeout && server.admits config.caller

/-- The entries found for a query. A query is not sent if its filter is not well formed. -/
def ask (config : DirectoryConfig) (network : Directory.Network) (query : DirectoryQuery) :
    List DirectoryEntry :=
  if (SearchFilter.parse? query.filter.toList).isSome then
    ((config.server? network).map (·.ask config.caller query)).getD []
  else []

/-- The users whom a query finds. A blank query finds nobody. -/
def search (config : DirectoryConfig) (network : Directory.Network) (query : String) :
    List User :=
  if Text.isBlankText query then []
  else (config.ask network (config.userQuery query)).map config.user

def retrieve? (config : DirectoryConfig) (network : Directory.Network) (dn : String) :
    Option User :=
  (config.ask network (config.entryQuery dn)).head?.map config.user

end DirectoryConfig

end ApiCatalog
