/-
# Access to a cluster

An access file says where clusters are, who may use them, and in which contexts; one of the
contexts is the current one.  Several files can be put together: of two entries with one name the
first counts.  The current context leads to a target: the address of a cluster, and the user who
goes there.

A file may be named, and otherwise the environment names some.

Of the many things that such a file can say, only those are kept that decide whether the way to a
cluster can be followed.  Secrets are not kept: of a user it is known only whether there is one
(`UserEntry`).  A fault of access says where the way ends (`AccessFault`), and everything before
that place was in order.

* §1  the files: what they say, how they are read, and how two of them are put together.
* §2  from the current context to a target, and which targets can be reached at all.
* §3  which files are looked at, and the target that is found in them.
-/
import Teardown.Api.Address
import Teardown.Files
import Teardown.Settings
import Teardown.Yaml.Shape

namespace Teardown

/-! ## 1. Access files -/

/-- A cluster in an access file. -/
structure ClusterEntry where
  server : Option String
  authority : Option String
  authorityData : Option String
  proxy : Option String
deriving DecidableEq, Inhabited

/-- A user in an access file: the provider of the user's identity with whether it has handed out a token,
whether the user has a secret, and whether a command has to be run for one. -/
structure UserEntry where
  provider : Option (String × Bool)
  hasSecret : Bool
  hasCommand : Bool
deriving DecidableEq, Inhabited

/-- A context in an access file: a cluster and a user by their names. -/
structure ContextEntry where
  cluster : String
  user : Option String
deriving DecidableEq, Inhabited

/-- An access file.  Its clusters, users and contexts stand under names. -/
structure AccessFile where
  kind : Option String
  version : Option String
  clusters : List (String × Option ClusterEntry)
  users : List (String × Option UserEntry)
  contexts : List (String × Option ContextEntry)
  current : Option String
deriving DecidableEq, Inhabited

namespace AccessFile

/-- Fields that may be missing or null. -/
def optionalFields (schema : Schema) (names : List String) (rest : Fields) : Fields :=
  names.foldr (fun name rest => .field name false (.optional schema) rest) rest

/-- A list of entries with names, each of one shape under a given field. -/
def namedSchema (kind field : String) (entry : Schema) : Schema :=
  .optional (.list (.record kind
    (.field "name" true .strictText <| .field field false (.optional entry) .none)))

def clusterSchema : Schema :=
  .record "Cluster"
    (optionalFields .strictText
      ["server", "certificate-authority", "certificate-authority-data", "proxy-url",
       "tls-server-name"] <|
     optionalFields .flag ["insecure-skip-tls-verify", "disable-compression"] .none)

def contextSchema : Schema :=
  .record "Context"
    (.field "cluster" true .strictText <| optionalFields .strictText ["user", "namespace"] .none)

def userSchema : Schema :=
  let provider : Schema := .record "AuthProviderConfig"
    (.field "name" true .strictText <| .field "config" false (.table .strictText) .none)
  let command : Schema := .record "ExecConfig"
    (optionalFields .strictText ["apiVersion", "command"] <|
     optionalFields (.list .strictText) ["args"] <|
     optionalFields (.list (.table .strictText)) ["env"] <|
     optionalFields (.word ["Never", "IfAvailable", "Always"]) ["interactiveMode"] <|
     .field "provideClusterInfo" false .flag .none)
  .record "AuthInfo"
    (optionalFields .strictText
      ["username", "password", "token", "tokenFile", "client-certificate",
       "client-certificate-data", "client-key", "client-key-data", "as"] <|
     optionalFields (.list .strictText) ["as-groups"] <|
     optionalFields provider ["auth-provider"] <|
     optionalFields command ["exec"] .none)

def schema : Schema :=
  .record "Kubeconfig"
    (optionalFields (.record "Preferences" (optionalFields .flag ["colors"] .none))
      ["preferences"] <|
     .field "clusters" false (namedSchema "NamedCluster" "cluster" clusterSchema) <|
     .field "users" false (namedSchema "NamedAuthInfo" "user" userSchema) <|
     .field "contexts" false (namedSchema "NamedContext" "context" contextSchema) <|
     optionalFields .strictText ["current-context", "kind", "apiVersion"] .none)

/-- The value of a field that is there and not null. -/
def given? (d : Datum) (field : String) : Option Datum :=
  match d.field? field with
  | some .absent => none
  | value => value

/-- The entries of a field, by their names. -/
def entriesOf {α : Type} (d : Datum) (list field : String) (entry : Datum → α) :
    List (String × Option α) :=
  (d.itemsAt list).map fun item => (item.textAt "name", (given? item field).map entry)

def userOfDatum (d : Datum) : UserEntry where
  provider := (given? d "auth-provider").map fun provider =>
    (provider.textAt "name", ((provider.entriesAt "config").lookup "id-token").isSome)
  hasSecret :=
    ((d.textAt? "username").isSome && (d.textAt? "password").isSome) ||
      (d.textAt? "token").isSome || (d.textAt? "tokenFile").isSome
  hasCommand := (given? d "exec").isSome

/-- The access file of a datum.  Where it names a file beside it, that file's path is made from its own. -/
def ofDatum (path : String) (d : Datum) : AccessFile where
  kind := d.textAt? "kind"
  version := d.textAt? "apiVersion"
  clusters := entriesOf d "clusters" "cluster" fun entry =>
    ⟨entry.textAt? "server", (entry.textAt? "certificate-authority").map (Files.beside path),
     entry.textAt? "certificate-authority-data", entry.textAt? "proxy-url"⟩
  users := entriesOf d "users" "user" userOfDatum
  contexts := entriesOf d "contexts" "context" fun entry =>
    ⟨entry.textAt "cluster", entry.textAt? "user"⟩
  current := d.textAt? "current-context"

def empty : AccessFile := ⟨none, none, [], [], [], none⟩

/-- Whether two values differ, if both are there. -/
def disagree (a b : Option String) : Bool := a.isSome && b.isSome && decide (a ≠ b)

/-- The entries of a list, and those of another whose names are new. -/
def mergeEntries {α : Type} (entries more : List (String × α)) : List (String × α) :=
  entries ++ more.filter fun entry => !entries.any fun other => other.1 = entry.1

/-- An access file with what another adds to it; the two have to be of one kind and version. -/
def merge (a b : AccessFile) : Option AccessFile :=
  if disagree a.kind b.kind || disagree a.version b.version then none
  else
    some
      { kind := a.kind.or b.kind
        version := a.version.or b.version
        clusters := mergeEntries a.clusters b.clusters
        users := mergeEntries a.users b.users
        contexts := mergeEntries a.contexts b.contexts
        current := a.current.or b.current }

/-- The access file at a path.  All documents in it count. -/
def read? (files : Files) (path : String) : Option AccessFile := do
  let text ← (files.text path).toOption
  let data ← (Yaml.readAll schema text.toList).toOption
  (data.map (ofDatum path)).foldlM merge empty

/-! ## 2. Following the current context -/

def valueOf? {α : Type} (entries : List (String × Option α)) (name : String) : Option α :=
  (entries.find? fun entry => entry.1 = name).bind (·.2)

/-- The six bits for which a character stands. -/
def sextet? (c : Char) : Option Nat :=
  if 'A' ≤ c ∧ c ≤ 'Z' then some (c.toNat - 65)
  else if 'a' ≤ c ∧ c ≤ 'z' then some (c.toNat - 71)
  else if '0' ≤ c ∧ c ≤ '9' then some (c.toNat + 4)
  else if c = '+' then some 62
  else if c = '/' then some 63
  else none

/-- Whether a text stands for bytes, four characters for three of them.  Of the last group one or two
characters may be padding, and then the bits that are too many are zero. -/
def isBase64 (s : List Char) : Bool :=
  let sextets := (s.takeWhile (· ≠ '=')).map sextet?
  let padding := s.dropWhile (· ≠ '=')
  let last := (sextets.getLast?.bind id).getD 0
  s.length % 4 = 0 && sextets.all Option.isSome && padding.length ≤ 2 &&
    padding.all (· = '=') && last % twoTo (2 * padding.length) = 0

/-- Whether the authority of a cluster can be read, if it has one. -/
def hasReadableAuthority (files : Files) (entry : ClusterEntry) : Bool :=
  match entry.authorityData, entry.authority with
  | some data, _ => isBase64 data.toList
  | none, some path => (files path).toOption.isSome
  | none, none => true

/-- The way to a cluster, and who goes it. -/
structure Target where
  server : String
  proxy : Option String
  user : UserEntry
deriving DecidableEq, Inhabited

/-- The target of the current context, if all that is said about it can be understood.  A user of whom
nothing is known is nobody in particular. -/
def target? (files : Files) (a : AccessFile) : Option Target := do
  let context ← valueOf? a.contexts (← a.current)
  let cluster ← valueOf? a.clusters context.cluster
  let server ← cluster.server
  let proxy := cluster.proxy.filter fun proxy => !proxy.isEmpty
  let isAddress (text : String) : Bool := Address.isAddress text.toList
  if isAddress server && hasReadableAuthority files cluster && proxy.all isAddress then
    some ⟨server, proxy, (context.user.bind (valueOf? a.users)).getD default⟩
  else none

/-- Whether a target can be reached directly by its user, with no command to be run before. -/
def Target.isReachable (t : Target) : Bool :=
  t.proxy.isNone &&
    match t.user.provider with
    | some (name, hasToken) => ["oidc", "gcp"].contains name && hasToken
    | none => t.user.hasSecret || !t.user.hasCommand

end AccessFile

/-! ## 3. Access -/

/-- Where the way to a cluster ends. -/
inductive AccessFault
  | unread (path : String)
  | unloaded
  | unknown
  | unconnected
deriving DecidableEq

namespace AccessFault

def message : AccessFault → String
  | .unread path => "failed to read kubeconfig " ++ path
  | .unloaded => "failed to load kubeconfig"
  | .unknown => "failed to infer config"
  | .unconnected => "failed to create client"

def toFault (f : AccessFault) : Fault := .internal "kube-client" f.message

end AccessFault

/-- The variable that names access files, with colons between them. -/
def accessVariable : String := "KUBECONFIG"

/-- The access files at some paths, put together. -/
def AccessFile.readAll? (files : Files) (paths : List String) : Option AccessFile :=
  paths.foldlM (fun (merged : AccessFile) path => (AccessFile.read? files path).bind merged.merge)
    AccessFile.empty

/-- The access files that the environment names, put together. -/
def environmentAccess? (files : Files) (environment : Environment) : Option AccessFile := do
  let paths := (Text.split ':' (← environment.get? accessVariable)).filter fun path => !path.isEmpty
  if paths.isEmpty then none else AccessFile.readAll? files paths

/-- The target that is found in a file, or by way of the environment. -/
def findTarget (files : Files) (environment : Environment) (path : Option String) :
    Except AccessFault AccessFile.Target :=
  match path with
  | some path =>
    match AccessFile.read? files path with
    | none => .error (.unread path)
    | some file =>
      match file.target? files with
      | none => .error .unloaded
      | some target => .ok target
  | none =>
    match (environmentAccess? files environment).bind fun file => file.target? files with
    | none => .error .unknown
    | some target => .ok target

/-- The target to which a connection can be made. -/
def connect (files : Files) (environment : Environment) (path : Option String) :
    Except AccessFault AccessFile.Target :=
  match findTarget files environment path with
  | .error cause => .error cause
  | .ok target => if target.isReachable then .ok target else .error .unconnected

/-! ## Worked examples -/

example : (AccessFile.empty.merge AccessFile.empty) = some AccessFile.empty := by rfl

example : AccessFile.isBase64 ['Y', 'Q', '=', '='] = true := by decide +kernel

example : AccessFile.isBase64 ['Y', 'R', '=', '='] = false := by decide +kernel

end Teardown
